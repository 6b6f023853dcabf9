import HostVitals.Json.Writer
import HostVitals.Proofs.Json.Grammar

/-!
# Documents that are read back

A value is written with escapes in its texts and with blanks between its parts.  What is written is
one of the spellings of the value, and so it is read back as it was.

Main results:

- `spellsText_quote`, `spellsNumeral_text`: how texts and numbers are written is a spelling of them.
- `spells_pretty`: how a well-formed value is written is a spelling of it.
- `ofText_toText`: a well-formed value is read back from its document.
-/

namespace HostVitals.Json

open HostVitals.Number

/-! ## Texts -/

/-- The code of a control character is read back from its two digits. -/
theorem hexCode_hexPair {code : Nat} (h : code < 0x20) :
    hexCode (some '0') (some '0') (some (Nat.digitChar (code / 16)))
      (some (Nat.digitChar (code % 16))) = some code := by
  have hcodes : ∀ n : Fin 0x20, hexCode (some '0') (some '0')
      (some (Nat.digitChar (n.val / 16))) (some (Nat.digitChar (n.val % 16))) = some n.val := by
    decide
  exact hcodes ⟨code, h⟩

/-- A character that is no surrogate is the element with its code. -/
theorem unitOfCode_toNat {c : Char} (h : c.toNat < 0x20) : unitOfCode c.toNat = .char c := by
  have hlow : ¬((0xD800 ≤ c.toNat && c.toNat ≤ 0xDFFF) = true) := by
    simp only [Bool.and_eq_true, decide_eq_true_eq]
    omega
  rw [unitOfCode, if_neg hlow, Char.ofNat_toNat]

/-- How a character is written is a spelling of it. -/
theorem spellsUnit_escape (c : Char) : SpellsUnit (.char c) ((escape c).map some) := by
  unfold escape
  split
  case h_8 hquote hslash _ _ _ _ _ =>
    split
    · next hcontrol =>
      have hcoded := SpellsUnit.coded (hexCode_hexPair hcontrol)
      rw [unitOfCode_toNat hcontrol] at hcoded
      exact hcoded
    · next hplain => exact .plain hquote hslash hplain
  all_goals exact .escaped rfl

theorem spellsUnits_flatMap (cs : List Char) :
    SpellsUnits (cs.map .char) ((cs.flatMap escape).map some) := by
  induction cs with
  | nil => exact .nil
  | cons c cs ih =>
      rw [List.flatMap_cons, List.map_append]
      exact .cons (spellsUnit_escape c) ih

theorem textOfUnits_map_char (cs : List Char) : textOfUnits (cs.map .char) = some cs := by
  induction cs with
  | nil => rfl
  | cons c cs ih => simp [textOfUnits, ih]

/-- How a text is written is a spelling of it. -/
theorem spellsText_quote (text : String) : SpellsText (some text) ((quote text).map some) := by
  refine ⟨_, _, spellsUnits_flatMap text.toList, ?_, by simp [quote]⟩
  rw [textOfUnits_map_char, Option.map_some, String.ofList_toList]

/-! ## Numbers -/

/-- How a well-formed number is written is a spelling of it. -/
theorem spellsNumeral_text {n : Numeral} (h : n.WellFormed) : SpellsNumeral n n.text := by
  refine ⟨h, ?_⟩
  rcases n with ⟨negative, whole, fraction, _ | ⟨_ | _, digits⟩⟩
  · exact ⟨_, .absent, rfl⟩
  · exact ⟨_, .plus (.inl rfl) digits, rfl⟩
  · exact ⟨_, .negative (.inl rfl) digits, rfl⟩

/-! ## Well-formed values -/

/-- A value that may stand in a document: its numbers are well-formed, and its texts and the names
in it are Unicode. -/
inductive Value.WellFormed : Value → Prop
  | null : Value.WellFormed .null
  | bool (b : Bool) : Value.WellFormed (.bool b)
  | number {n : Numeral} (h : n.WellFormed) : Value.WellFormed (.number n)
  | text (t : String) : Value.WellFormed (.text (some t))
  | array {items : List Value} (h : ∀ item ∈ items, Value.WellFormed item) :
      Value.WellFormed (.array items)
  | object {members : List (Option String × Value)}
      (hnames : ∀ member ∈ members, member.1.isSome = true)
      (hvalues : ∀ member ∈ members, Value.WellFormed member.2) :
      Value.WellFormed (.object members)

/-! ## Values -/

theorem blanks_lineStart (level : Nat) : Blanks ((lineStart level).map some) := by
  intro s hs
  obtain ⟨c, hc, rfl⟩ := List.mem_map.1 hs
  rcases List.mem_cons.1 hc with rfl | hc
  · rfl
  · rw [List.eq_of_mem_replicate hc]
    rfl

theorem blanks_nil : Blanks [] := by simp [Blanks]

/-- A value may start on a line of its own. -/
theorem Spells.onLine {v : Value} {spelling : Source} (h : Spells v spelling) (level : Nat)
    {after : Source} (hafter : Blanks after) :
    SpellsSpaced v ((lineStart level).map some ++ (spelling ++ after)) :=
  .mk (blanks_lineStart level) h hafter

/-- How the items of a list are written is a spelling of them. -/
theorem spellsItems_pretty {level : Nat} {item : Value} {items : List Value}
    (h : ∀ i ∈ item :: items, Spells i ((pretty level i).map some)) (outer : Nat) :
    SpellsItems (item :: items) ((lineStart level ++ (pretty level item ++
      (prettyItems level items ++ lineStart outer))).map some) := by
  induction items generalizing item with
  | nil =>
      have hlast := (h item List.mem_cons_self).onLine level (blanks_lineStart outer)
      simpa [prettyItems] using SpellsItems.last hlast
  | cons next items ih =>
      have hfirst := (h item List.mem_cons_self).onLine level blanks_nil
      have hrest := ih (fun i hi => h i (List.mem_cons_of_mem _ hi))
      simpa [prettyItems] using SpellsItems.more hfirst hrest

/-- How a member is written is a spelling of it. -/
theorem spellsMember_pretty {level : Nat} {name : String} {v : Value}
    (h : Spells v ((pretty level v).map some)) {after : List Char}
    (hafter : Blanks (after.map some)) :
    SpellsMember (some name, v)
      ((lineStart level ++ (prettyMember level (some name, v) ++ after)).map some) := by
  have hspace : Blanks [some ' '] := by
    intro s hs
    rw [List.mem_singleton.1 hs]
    rfl
  have hmember := SpellsMember.mk (blanks_lineStart level) (spellsText_quote name) blanks_nil
    (.mk hspace h hafter)
  simpa [prettyMember] using hmember

/-- How the members of an object are written is a spelling of them. -/
theorem spellsMembers_pretty {level : Nat} {member : Option String × Value}
    {members : List (Option String × Value)} (hnames : ∀ m ∈ member :: members, m.1.isSome = true)
    (h : ∀ m ∈ member :: members, Spells m.2 ((pretty level m.2).map some)) (outer : Nat) :
    SpellsMembers (member :: members) ((lineStart level ++ (prettyMember level member ++
      (prettyMembers level members ++ lineStart outer))).map some) := by
  induction members generalizing member with
  | nil =>
      have hvalue := h member List.mem_cons_self
      obtain ⟨_ | name, v⟩ := member
      · cases hnames _ List.mem_cons_self
      · have hlast := @spellsMember_pretty level name v hvalue _ (blanks_lineStart outer)
        simpa [prettyMembers] using SpellsMembers.last hlast
  | cons next members ih =>
      have hrest := ih (fun m hm => hnames m (List.mem_cons_of_mem _ hm))
        (fun m hm => h m (List.mem_cons_of_mem _ hm))
      have hvalue := h member List.mem_cons_self
      obtain ⟨_ | name, v⟩ := member
      · cases hnames _ List.mem_cons_self
      · have hfirst := @spellsMember_pretty level name v hvalue [] blanks_nil
        simpa [prettyMembers] using SpellsMembers.more hfirst hrest

/-- How a well-formed value is written is a spelling of it. -/
theorem spells_pretty {v : Value} (h : v.WellFormed) (level : Nat) :
    Spells v ((pretty level v).map some) := by
  induction h generalizing level with
  | null => simpa [pretty] using Spells.null
  | bool b =>
      have hword : (pretty level (.bool b)).map some =
          (if b then "true" else "false").toList.map some := by
        cases b <;> rw [pretty] <;> rfl
      rw [hword]
      exact .bool b
  | number hn =>
      rw [pretty]
      exact .number (spellsNumeral_text hn)
  | text t =>
      rw [pretty]
      exact .text (spellsText_quote t)
  | @array items _ ih =>
      cases items with
      | nil => simpa [pretty] using Spells.emptyArray blanks_nil
      | cons item items =>
          have hitems := spellsItems_pretty (fun i hi => ih i hi (level + 1)) level
          simpa [pretty] using Spells.array hitems
  | @object members hnames _ ih =>
      cases members with
      | nil => simpa [pretty] using Spells.emptyObject blanks_nil
      | cons member members =>
          have hmembers := spellsMembers_pretty hnames (fun m hm => ih m hm (level + 1)) level
          simpa [pretty] using Spells.object hmembers

/-- A well-formed value is read back from its document. -/
theorem ofText_toText {v : Value} (h : v.WellFormed) : ofText v.toText = some v := by
  have hspells := SpellsSpaced.mk blanks_nil (spells_pretty h 0) blanks_nil
  rw [List.nil_append, List.append_nil] at hspells
  rw [ofText, Value.toText, String.toList_ofList]
  exact document_eq_some_iff.2 hspells

end HostVitals.Json
