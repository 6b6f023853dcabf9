import HostVitals.Proofs.Json.Records

/-!
# The fields of a record

A record may be an object, whose members give the fields by their names, or a list, which gives them
in order.  Either gives at most one value for each field.  A field that is not given may have a
standard value.

Main results:

- `slots_eq_some_iff`: the values for the fields are those that a value gives.
- `Gives.of_perm`: fields that are left out and foreign members that are added.
- `Gives.atMostOne`, `Gives.not_repeated`: an object gives at most one value for each field, and has
  no field twice.
- `defaulted_eq_some_iff`: what a field with a standard value takes.
-/

namespace HostVitals.Json

/-! ## What is given for the fields -/

/-- A value gives each field of a record a value, or none: as an object with named members, none of
which has the name of another field in it, or as a list that is not too long. -/
inductive Gives (names : List String) : Value → List (Option Value) → Prop
  | object {members : List (Option String × Value)} {values : List (Option Value)}
      (hnamed : ∀ member ∈ members, member.1.isSome = true)
      (hvalues : names.map (fun name => valuesOf name members) = values.map Option.toList) :
      Gives names (.object members) values
  | array {items : List Value} (hlength : items.length ≤ names.length) :
      Gives names (.array items)
        (items.map some ++ List.replicate (names.length - items.length) none)

/-- The value that is held for a field, if any. -/
def Slot.value? : Slot → Option Value
  | .given value => some value
  | _ => none

/-- An object holds a value for a field when it has the field at most once. -/
theorem slotOf_map_value {members : List (Option String × Value)} {name : String}
    {value : Option Value} :
    (slotOf members name).map Slot.value? = some value ↔
      valuesOf name members = value.toList := by
  unfold slotOf
  rcases valuesOf name members with _ | ⟨first, _ | ⟨second, others⟩⟩
  · cases value <;> simp [Slot.value?]
  · cases value <;> simp [Slot.value?]
  · cases value <;> simp

theorem mapM_slotOf_map_value {members : List (Option String × Value)} {names : List String}
    {values : List (Option Value)} :
    (names.mapM (slotOf members)).map (List.map Slot.value?) = some values ↔
      names.map (fun name => valuesOf name members) = values.map Option.toList := by
  induction names generalizing values with
  | nil => cases values <;> simp
  | cons name names ih =>
      rw [List.mapM_cons]
      cases values with
      | nil => cases slotOf members name <;> cases names.mapM (slotOf members) <;> simp
      | cons value values =>
          rw [List.map_cons, List.map_cons, List.cons.injEq, ← slotOf_map_value, ← ih]
          cases slotOf members name <;> cases names.mapM (slotOf members) <;> simp

/-- The values for the fields are those that a value gives. -/
theorem slots_eq_some_iff {names : List String} {v : Value} {values : List (Option Value)} :
    (slots names v).map (List.map Slot.value?) = some values ↔ Gives names v values := by
  cases v with
  | object members =>
      by_cases hnamed : ∀ member ∈ members, member.1.isSome = true
      · rw [slots, if_pos (List.all_eq_true.2 hnamed), mapM_slotOf_map_value]
        exact ⟨fun hvalues => .object hnamed hvalues, fun h => by cases h; assumption⟩
      · rw [slots, if_neg (fun hall => hnamed (List.all_eq_true.1 hall))]
        exact iff_of_false (by simp) (fun h => by cases h; exact hnamed ‹_›)
  | array items =>
      by_cases hlength : items.length ≤ names.length
      · rw [slots, if_pos hlength]
        have hvalues : (items.map Slot.given ++
            List.replicate (names.length - items.length) Slot.missingItem).map Slot.value? =
            items.map some ++ List.replicate (names.length - items.length) none := by
          simp [Function.comp_def, Slot.value?]
        rw [Option.map_some, hvalues, Option.some.injEq]
        constructor
        · rintro rfl
          exact .array hlength
        · intro h
          cases h
          rfl
      · rw [slots, if_neg hlength]
        exact iff_of_false (by simp) (fun h => by cases h; contradiction)
  | null => exact iff_of_false (by simp [slots]) (fun h => by cases h)
  | bool b => exact iff_of_false (by simp [slots]) (fun h => by cases h)
  | number n => exact iff_of_false (by simp [slots]) (fun h => by cases h)
  | text t => exact iff_of_false (by simp [slots]) (fun h => by cases h)

/-! ## Fields that are left out -/

/-- Of the members that are kept, the one with a name has its value. -/
theorem valuesOf_kept {members : List (Option String × Value)}
    (hnodup : (members.map Prod.fst).Nodup) {name : String} {value : Value}
    (h : (some name, value) ∈ members) (kept : Option String → Bool) :
    valuesOf name (members.filter (fun member => kept member.1)) =
      (if kept (some name) then some value else none).toList := by
  by_cases hkept : kept (some name) = true
  · rw [if_pos hkept]
    exact valuesOf_eq_single (hnodup.sublist (List.filter_sublist.map _))
      (List.mem_filter.2 ⟨h, hkept⟩)
  · rw [if_neg hkept]
    refine valuesOf_eq_nil fun hmem => ?_
    obtain ⟨member, hmember, hname⟩ := List.mem_map.1 hmem
    exact hkept (hname ▸ (List.mem_filter.1 hmember).2)

/-- The names of a record and its members go along with each other. -/
theorem map_names {α : Type} {names : List String} {members : List (Option String × Value)}
    (hnames : members.map Prod.fst = names.map some) {f : String → α}
    {g : Option String × Value → α}
    (h : ∀ name value, (some name, value) ∈ members → f name = g (some name, value)) :
    names.map f = members.map g := by
  induction members generalizing names with
  | nil =>
      obtain rfl : names = [] := by simpa using hnames.symm
      rfl
  | cons member members ih =>
      cases names with
      | nil => simp at hnames
      | cons name names =>
          obtain ⟨key, value⟩ := member
          simp only [List.map_cons, List.cons.injEq] at hnames
          obtain ⟨rfl, hnames⟩ := hnames
          rw [List.map_cons, List.map_cons, h name value List.mem_cons_self,
            ih hnames (fun name value hmem => h name value (List.mem_cons_of_mem _ hmem))]

/-- An object with some of the members of a record, in any order and with foreign members among
them, gives the fields that it has. -/
theorem Gives.of_perm {names : List String} {members foreign written : List (Option String × Value)}
    (hnames : members.map Prod.fst = names.map some) (hnodup : names.Nodup)
    (kept : Option String → Bool) (hforeign : ∀ member ∈ foreign, IsForeign (names.map some) member)
    (hwritten : written.Perm (members.filter (fun member => kept member.1) ++ foreign)) :
    Gives names (.object written)
      (members.map (fun member => if kept member.1 then some member.2 else none)) := by
  have hdistinct : (members.map Prod.fst).Nodup := by
    rw [hnames]
    exact List.pairwise_map.2 (hnodup.imp (fun hne heq => hne (Option.some.inj heq)))
  refine .object ?_ ?_
  · have hnamed : ∀ name ∈ (members.filter (fun member => kept member.1)).map Prod.fst,
        name.isSome = true := by
      intro name hname
      have hmem := (List.filter_sublist.map Prod.fst).subset hname
      rw [hnames] at hmem
      obtain ⟨name, -, rfl⟩ := List.mem_map.1 hmem
      rfl
    exact isSome_written hnamed hforeign hwritten
  · have hvalue : ∀ name value, (some name, value) ∈ members → valuesOf name written =
        (if kept (some name) then some value else none).toList := by
      intro name value hmem
      refine valuesOf_perm hwritten ?_
      have hname : some name ∈ names.map some := hnames ▸ List.mem_map_of_mem hmem
      rw [valuesOf_append, valuesOf_foreign hforeign hname, List.append_nil,
        valuesOf_kept hdistinct hmem]
    rw [List.map_map]
    exact map_names hnames hvalue

/-! ## Fields of an object -/

/-- A member is among the values of its name. -/
theorem mem_valuesOf {name : String} {value : Value} {members : List (Option String × Value)}
    (h : (some name, value) ∈ members) : value ∈ valuesOf name members :=
  List.mem_map.2 ⟨_, List.mem_filter.2 ⟨h, by simp⟩, rfl⟩

/-- An object has at most one value for each field. -/
theorem Gives.atMostOne {names : List String} {members : List (Option String × Value)}
    {values : List (Option Value)} (h : Gives names (.object members) values) {name : String}
    (hname : name ∈ names) : (valuesOf name members).length ≤ 1 := by
  cases h with
  | object hnamed hvalues =>
      have hmem : valuesOf name members ∈ values.map Option.toList :=
        hvalues ▸ List.mem_map_of_mem hname
      obtain ⟨value, -, hvalue⟩ := List.mem_map.1 hmem
      rw [← hvalue]
      cases value <;> simp

/-- An object has no field twice. -/
theorem Gives.not_repeated {names : List String}
    {before between after : List (Option String × Value)} {name : String}
    (hname : name ∈ names) (first second : Value) (values : List (Option Value)) :
    ¬Gives names (.object (before ++ (some name, first) :: between ++ (some name, second) :: after))
      values := by
  intro h
  have hone := h.atMostOne hname
  simp only [valuesOf, List.filter_append, List.filter_cons, List.map_append, List.map_cons,
    beq_self_eq_true, if_true, List.length_append, List.length_cons] at hone
  omega

/-- A field takes its standard value when nothing is given for it, and otherwise what is read from
the value that is. -/
def Takes {α : Type} (read : Value → Option α) (standard : α) (given : Option Value) (a : α) :
    Prop :=
  match given with
  | none => a = standard
  | some value => read value = some a

theorem defaulted_eq_some_iff {α : Type} {read : Value → Option α} {standard a : α} {slot : Slot} :
    slot.defaulted standard read = some a ↔ Takes read standard slot.value? a := by
  cases slot with
  | given value => exact Iff.rfl
  | missingMember => simp [Slot.defaulted, Takes, Slot.value?, eq_comm]
  | missingItem => simp [Slot.defaulted, Takes, Slot.value?, eq_comm]

end HostVitals.Json
