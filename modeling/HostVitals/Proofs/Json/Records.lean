import HostVitals.Json.Record
import HostVitals.Proofs.Json.Documents

/-!
# Records in documents of other hands

Another program may write the members of an object in another order, and may add members of its own.
Such a document is a variant of the one that would be written here.  A reader of records finds the
same fields in it, since it looks for them by their names and passes over the names it does not
know.

Main results:

- `Variant.wellFormed`: a variant of a well-formed value is well-formed, if what is added is.
- `Variant.slots_eq`: a variant of a record holds the same fields.
- `mapM_variants`: a variant of a list is read item by item.
-/

namespace HostVitals.Json

open HostVitals.Number

/-! ## Variants -/

/-- A value that is neither a list nor an object. -/
inductive Value.Plain : Value → Prop
  | null : Value.Plain .null
  | bool (b : Bool) : Value.Plain (.bool b)
  | number {n : Numeral} (h : n.WellFormed) : Value.Plain (.number n)
  | text (t : String) : Value.Plain (.text (some t))

/-- A member with a name that is not among the given ones, and with a plain value. -/
def IsForeign (names : List (Option String)) (member : Option String × Value) : Prop :=
  ∃ name value, member = (some name, value) ∧ some name ∉ names ∧ value.Plain

mutual

/-- A value with the members of its objects in any order, and with foreign members among them. -/
inductive Variant : Value → Value → Prop
  | same (v : Value) : Variant v v
  | array {items others : List Value} (hitems : Variants items others) :
      Variant (.array items) (.array others)
  | object {members others foreign written : List (Option String × Value)}
      (hnames : others.map Prod.fst = members.map Prod.fst)
      (hvalues : Variants (members.map Prod.snd) (others.map Prod.snd))
      (hforeign : ∀ member ∈ foreign, IsForeign (members.map Prod.fst) member)
      (hwritten : written.Perm (others ++ foreign)) :
      Variant (.object members) (.object written)

/-- Values that are variants, one by one. -/
inductive Variants : List Value → List Value → Prop
  | nil : Variants [] []
  | cons {v w : Value} {vs ws : List Value} (hfirst : Variant v w) (hrest : Variants vs ws) :
      Variants (v :: vs) (w :: ws)

end

theorem Variants.refl (vs : List Value) : Variants vs vs := by
  induction vs with
  | nil => exact .nil
  | cons v vs ih => exact .cons (.same v) ih

/-- A value without parts has no variants. -/
theorem Variant.eq_of_plain {v w : Value} (h : Variant v w) (hplain : v.Plain) : w = v := by
  cases h with
  | same => rfl
  | array => cases hplain
  | object => cases hplain

theorem Variant.of_array {items : List Value} {w : Value} (h : Variant (.array items) w) :
    ∃ others, w = .array others ∧ Variants items others := by
  cases h with
  | same => exact ⟨items, rfl, .refl items⟩
  | array hitems => exact ⟨_, rfl, hitems⟩

/-- What a variant of an object is put together from. -/
theorem Variant.of_object {members : List (Option String × Value)} {w : Value}
    (h : Variant (.object members) w) :
    ∃ others foreign written, w = .object written ∧
      others.map Prod.fst = members.map Prod.fst ∧
      Variants (members.map Prod.snd) (others.map Prod.snd) ∧
      (∀ member ∈ foreign, IsForeign (members.map Prod.fst) member) ∧
      written.Perm (others ++ foreign) := by
  cases h with
  | same => exact ⟨members, [], members, rfl, rfl, .refl _, by simp, by simp⟩
  | object hnames hvalues hforeign hwritten =>
      exact ⟨_, _, _, rfl, hnames, hvalues, hforeign, hwritten⟩

/-! ## Well-formed variants -/

theorem Value.Plain.wellFormed {v : Value} (h : v.Plain) : v.WellFormed := by
  cases h with
  | null => exact .null
  | bool b => exact .bool b
  | number hn => exact .number hn
  | text t => exact .text t

/-- Only well-formed values make up a well-formed list. -/
theorem Value.WellFormed.items {items : List Value} (h : Value.WellFormed (.array items)) :
    ∀ item ∈ items, item.WellFormed := by
  cases h with
  | array hitems => exact hitems

theorem Value.WellFormed.members {members : List (Option String × Value)}
    (h : Value.WellFormed (.object members)) :
    (∀ member ∈ members, member.1.isSome = true) ∧ ∀ member ∈ members, member.2.WellFormed := by
  cases h with
  | object hnames hvalues => exact ⟨hnames, hvalues⟩

/-- The members of a variant of an object are named when those of the object are. -/
theorem isSome_written {names : List (Option String)}
    {others foreign written : List (Option String × Value)}
    (hothers : ∀ name ∈ others.map Prod.fst, name.isSome = true)
    (hforeign : ∀ member ∈ foreign, IsForeign names member)
    (hwritten : written.Perm (others ++ foreign)) : ∀ member ∈ written, member.1.isSome = true := by
  intro member hmember
  rcases List.mem_append.1 (hwritten.mem_iff.1 hmember) with hmember | hmember
  · exact hothers _ (List.mem_map_of_mem hmember)
  · obtain ⟨name, value, rfl, -, -⟩ := hforeign member hmember
    rfl

/-- The members of a variant of an object are named and well-formed when those of the object are. -/
theorem wellFormed_written {members others foreign written : List (Option String × Value)}
    (hv : Value.WellFormed (.object members))
    (hnames : others.map Prod.fst = members.map Prod.fst)
    (hothers : ∀ value ∈ others.map Prod.snd, value.WellFormed)
    (hforeign : ∀ member ∈ foreign, IsForeign (members.map Prod.fst) member)
    (hwritten : written.Perm (others ++ foreign)) : Value.WellFormed (.object written) := by
  have hnamed : ∀ name ∈ others.map Prod.fst, name.isSome = true := by
    rw [hnames]
    exact List.forall_mem_map.2 hv.members.1
  refine .object (isSome_written hnamed hforeign hwritten) ?_
  intro member hmember
  rcases List.mem_append.1 (hwritten.mem_iff.1 hmember) with hmember | hmember
  · exact hothers _ (List.mem_map_of_mem hmember)
  · obtain ⟨name, value, rfl, -, hplain⟩ := hforeign member hmember
    exact hplain.wellFormed

mutual

/-- A variant of a well-formed value is well-formed. -/
theorem Variant.wellFormed : ∀ {v w : Value}, Variant v w → v.WellFormed → w.WellFormed
  | _, _, .same _, hv => hv
  | _, _, .array hitems, hv => .array (hitems.wellFormed hv.items)
  | _, _, .object hnames hvalues hforeign hwritten, hv =>
    wellFormed_written hv hnames (hvalues.wellFormed (List.forall_mem_map.2 hv.members.2)) hforeign
      hwritten

/-- Variants of well-formed values are well-formed. -/
theorem Variants.wellFormed : ∀ {vs ws : List Value}, Variants vs ws →
    (∀ v ∈ vs, v.WellFormed) → ∀ w ∈ ws, w.WellFormed
  | _, _, .nil, _ => by simp
  | _, _, .cons hfirst hrest, hvs => by
    have hhead := hfirst.wellFormed (hvs _ List.mem_cons_self)
    have htail := hrest.wellFormed (fun v hv => hvs v (List.mem_cons_of_mem _ hv))
    exact List.forall_mem_cons.2 ⟨hhead, htail⟩

end

/-! ## The fields of a variant -/

theorem valuesOf_append (name : String) (first second : List (Option String × Value)) :
    valuesOf name (first ++ second) = valuesOf name first ++ valuesOf name second := by
  simp [valuesOf]

/-- A name that no member has has no values. -/
theorem valuesOf_eq_nil {name : String} {members : List (Option String × Value)}
    (h : some name ∉ members.map Prod.fst) : valuesOf name members = [] := by
  have hne : ∀ member ∈ members, ¬(member.1 == some name) = true := by
    intro member hmember heq
    exact h (List.mem_map.2 ⟨member, hmember, beq_iff_eq.1 heq⟩)
  simp [valuesOf, List.filter_eq_nil_iff.2 hne]

/-- A name that occurs once has one value. -/
theorem valuesOf_eq_single {name : String} {value : Value}
    {members : List (Option String × Value)} (hnodup : (members.map Prod.fst).Nodup)
    (h : (some name, value) ∈ members) : valuesOf name members = [value] := by
  obtain ⟨before, after, rfl⟩ := List.append_of_mem h
  simp only [List.map_append, List.map_cons, List.nodup_append, List.nodup_cons] at hnodup
  obtain ⟨-, ⟨hafter, -⟩, hbefore⟩ := hnodup
  have hnone : some name ∉ before.map Prod.fst := by
    intro hmem
    exact hbefore _ hmem _ List.mem_cons_self rfl
  have hsingle : valuesOf name [(some name, value)] = [value] := by simp [valuesOf]
  have hcons : valuesOf name ((some name, value) :: after) = [value] := by
    rw [← List.singleton_append, valuesOf_append, hsingle, valuesOf_eq_nil hafter]
    rfl
  rw [valuesOf_append, valuesOf_eq_nil hnone, hcons]
  rfl

/-- Foreign members have no value under a known name. -/
theorem valuesOf_foreign {name : String} {names : List (Option String)}
    {foreign : List (Option String × Value)} (h : ∀ member ∈ foreign, IsForeign names member)
    (hname : some name ∈ names) : valuesOf name foreign = [] := by
  apply valuesOf_eq_nil
  intro hmem
  obtain ⟨member, hmember, heq⟩ := List.mem_map.1 hmem
  obtain ⟨other, value, rfl, hother, -⟩ := h member hmember
  rw [Option.some.inj heq] at hother
  exact hother hname

/-- The order of the members does not matter when there is one value at most. -/
theorem valuesOf_perm {members written : List (Option String × Value)} {name : String}
    {value : Option Value} (hwritten : written.Perm members)
    (hvalue : valuesOf name members = value.toList) : valuesOf name written = value.toList := by
  have hperm : (valuesOf name written).Perm (valuesOf name members) :=
    (hwritten.filter _).map _
  rw [hvalue] at hperm
  cases value with
  | none => exact hperm.eq_nil
  | some value => exact List.perm_singleton.1 hperm

/-- The order of the members does not matter to a field. -/
theorem slotOf_perm {members written : List (Option String × Value)} {name : String}
    {value : Value} (hwritten : written.Perm members) (hvalue : valuesOf name members = [value]) :
    slotOf written name = some (.given value) := by
  have hfound : valuesOf name written = (some value).toList := valuesOf_perm hwritten hvalue
  rw [slotOf, hfound]
  rfl

/-- Fields that are all given are found one by one. -/
theorem mapM_slotOf {written members : List (Option String × Value)} {names : List String}
    (hnames : members.map Prod.fst = names.map some)
    (h : ∀ name value, (some name, value) ∈ members →
      slotOf written name = some (.given value)) :
    names.mapM (slotOf written) = some (members.map (fun member => .given member.2)) := by
  induction names generalizing members with
  | nil =>
      obtain rfl : members = [] := by simpa using hnames
      rfl
  | cons name names ih =>
      cases members with
      | nil => simp at hnames
      | cons member members =>
          obtain ⟨key, value⟩ := member
          simp only [List.map_cons, List.cons.injEq] at hnames
          obtain ⟨rfl, hnames⟩ := hnames
          have hfirst := h name value List.mem_cons_self
          have hrest := ih hnames (fun name value hmem =>
            h name value (List.mem_cons_of_mem _ hmem))
          simp [List.mapM_cons, hfirst, hrest]

/-- A variant of a record holds the same fields, each with a variant of its value. -/
theorem Variant.slots_eq {names : List String} {members : List (Option String × Value)} {w : Value}
    (h : Variant (.object members) w) (hnames : members.map Prod.fst = names.map some)
    (hnodup : names.Nodup) :
    ∃ values, Variants (members.map Prod.snd) values ∧
      slots names w = some (values.map .given) := by
  obtain ⟨others, foreign, written, rfl, hothers, hvalues, hforeign, hwritten⟩ := h.of_object
  rw [hnames] at hothers hforeign
  refine ⟨others.map Prod.snd, hvalues, ?_⟩
  have hnamed : ∀ name ∈ others.map Prod.fst, name.isSome = true := by
    rw [hothers]
    exact List.forall_mem_map.2 (fun _ _ => rfl)
  have hsome : written.all (fun member => member.1.isSome) = true :=
    List.all_eq_true.2 (isSome_written hnamed hforeign hwritten)
  have hslot : ∀ name value, (some name, value) ∈ others →
      slotOf written name = some (.given value) := by
    intro name value hmem
    have hname : some name ∈ names.map some := hothers ▸ List.mem_map_of_mem hmem
    have hfound : valuesOf name others = [value] := by
      refine valuesOf_eq_single ?_ hmem
      rw [hothers]
      exact List.pairwise_map.2 (hnodup.imp (fun hne heq => hne (Option.some.inj heq)))
    refine slotOf_perm hwritten ?_
    rw [valuesOf_append, hfound, valuesOf_foreign hforeign hname]
    rfl
  rw [slots, if_pos hsome, mapM_slotOf hothers hslot, List.map_map]
  rfl

/-- A variant of a list is read item by item. -/
theorem mapM_variants {α : Type} {write : α → Value} {read : Value → Option α} {as : List α}
    {items : List Value} (h : Variants (as.map write) items)
    (hread : ∀ a ∈ as, ∀ w, Variant (write a) w → read w = some a) :
    items.mapM read = some as := by
  induction as generalizing items with
  | nil =>
      cases h
      rfl
  | cons a as ih =>
      cases h with
      | cons hfirst hrest =>
          have hhead := hread a List.mem_cons_self _ hfirst
          have htail := ih hrest (fun b hb => hread b (List.mem_cons_of_mem _ hb))
          simp [List.mapM_cons, hhead, htail]

/-- A list is not read when one of its items is not. -/
theorem mapM_variants_eq_none {α : Type} {write : α → Value} {read : Value → Option α}
    {as : List α} {items : List Value} (h : Variants (as.map write) items) {a : α} (ha : a ∈ as)
    (hread : ∀ w, Variant (write a) w → read w = none) : items.mapM read = none := by
  induction as generalizing items with
  | nil => cases ha
  | cons first as ih =>
      cases h with
      | @cons _ w _ _ hfirst hrest =>
          rcases List.mem_cons.1 ha with rfl | ha
          · simp [List.mapM_cons, hread w hfirst]
          · simp [List.mapM_cons, ih hrest ha]

theorem Variants.of_cons {v : Value} {vs ws : List Value} (h : Variants (v :: vs) ws) :
    ∃ first rest, ws = first :: rest ∧ Variant v first ∧ Variants vs rest := by
  cases h with
  | cons hfirst hrest => exact ⟨_, _, rfl, hfirst, hrest⟩

theorem Variants.of_nil {ws : List Value} (h : Variants [] ws) : ws = [] := by
  cases h
  rfl

end HostVitals.Json
