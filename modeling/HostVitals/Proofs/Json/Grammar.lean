import HostVitals.Proofs.Json.Spellings

/-!
# The grammar of documents

A document is a value with blanks around it.  The grammar tells which sources are spellings of which
values, whatever blanks, escapes and exponents they use.  The reader takes the spellings of values
and nothing else, so that a source is a document of at most one value, and what is read from it is
that value.

Main results:

- `Spells.read`: every spelling of a value is read.
- `readsSpellings`: what is read is spelled by what was taken.
- `document_eq_some_iff`: the sources that are read as documents, and as which value.
-/

namespace HostVitals.Json

open HostVitals.Number

/-! ## Spellings of values -/

/-- Nothing but blanks. -/
def Blanks (source : Source) : Prop :=
  ∀ s ∈ source, isJsonBlank s = true

mutual

/-- The spellings of a value. -/
inductive Spells : Value → Source → Prop
  | null : Spells .null ("null".toList.map some)
  | bool (b : Bool) : Spells (.bool b) ((if b then "true" else "false").toList.map some)
  | number {n : Numeral} {cs : List Char} (h : SpellsNumeral n cs) :
      Spells (.number n) (cs.map some)
  | text {t : Option String} {spelling : Source} (h : SpellsText t spelling) :
      Spells (.text t) spelling
  | emptyArray {blanks : Source} (h : Blanks blanks) :
      Spells (.array []) (some '[' :: (blanks ++ [some ']']))
  | array {items : List Value} {spelling : Source} (h : SpellsItems items spelling) :
      Spells (.array items) (some '[' :: (spelling ++ [some ']']))
  | emptyObject {blanks : Source} (h : Blanks blanks) :
      Spells (.object []) (some '\x7b' :: (blanks ++ [some '\x7d']))
  | object {members : List (Option String × Value)} {spelling : Source}
      (h : SpellsMembers members spelling) :
      Spells (.object members) (some '\x7b' :: (spelling ++ [some '\x7d']))

/-- The spellings of a value with blanks around it. -/
inductive SpellsSpaced : Value → Source → Prop
  | mk {v : Value} {before spelling after : Source} (hbefore : Blanks before)
      (h : Spells v spelling) (hafter : Blanks after) :
      SpellsSpaced v (before ++ (spelling ++ after))

/-- The spellings of the items of a list, at least one, with commas between them. -/
inductive SpellsItems : List Value → Source → Prop
  | last {v : Value} {spelling : Source} (h : SpellsSpaced v spelling) : SpellsItems [v] spelling
  | more {v : Value} {items : List Value} {spelling rest : Source} (h : SpellsSpaced v spelling)
      (hrest : SpellsItems items rest) : SpellsItems (v :: items) (spelling ++ some ',' :: rest)

/-- The spellings of a member: a name and, after a colon, a value. -/
inductive SpellsMember : Option String × Value → Source → Prop
  | mk {name : Option String} {v : Value} {before key after spelling : Source}
      (hbefore : Blanks before) (hname : SpellsText name key) (hafter : Blanks after)
      (h : SpellsSpaced v spelling) :
      SpellsMember (name, v) (before ++ (key ++ (after ++ some ':' :: spelling)))

/-- The spellings of the members of an object, at least one, with commas between them. -/
inductive SpellsMembers : List (Option String × Value) → Source → Prop
  | last {member : Option String × Value} {spelling : Source} (h : SpellsMember member spelling) :
      SpellsMembers [member] spelling
  | more {member : Option String × Value} {members : List (Option String × Value)}
      {spelling rest : Source} (h : SpellsMember member spelling)
      (hrest : SpellsMembers members rest) :
      SpellsMembers (member :: members) (spelling ++ some ',' :: rest)

end

/-! ## Blanks -/

/-- What is skipped is skipped at once. -/
theorem skipBlanks_skipBlanks (source : Source) :
    skipBlanks (skipBlanks source) = skipBlanks source := by
  induction source with
  | nil => rfl
  | cons s source ih =>
      by_cases hblank : isJsonBlank s = true
      · simpa [skipBlanks, hblank] using ih
      · simp [skipBlanks, hblank]

theorem skipBlanks_of_not_blank {s : Text.Utf8.Symbol} (h : isJsonBlank s = false)
    (source : Source) : skipBlanks (s :: source) = s :: source := by
  simp [skipBlanks, h]

theorem skipBlanks_append {blanks : Source} (h : Blanks blanks) (source : Source) :
    skipBlanks (blanks ++ source) = skipBlanks source := by
  induction blanks with
  | nil => rfl
  | cons s blanks ih =>
      have hrest := ih (fun t ht => h t (List.mem_cons_of_mem _ ht))
      simpa [skipBlanks, h s List.mem_cons_self] using hrest

/-- What is skipped is blank. -/
theorem eq_append_skipBlanks (source : Source) :
    ∃ blanks, Blanks blanks ∧ source = blanks ++ skipBlanks source := by
  refine ⟨source.takeWhile isJsonBlank, ?_, List.takeWhile_append_dropWhile.symm⟩
  exact fun s hs => List.all_eq_true.1 List.all_takeWhile s hs

/-- Nothing that could belong to a number follows it when blanks do. -/
theorem continuesNumeral_append {blanks rest : Source} (h : Blanks blanks)
    (hrest : continuesNumeral rest = false) : continuesNumeral (blanks ++ rest) = false := by
  cases blanks with
  | nil => exact hrest
  | cons s blanks =>
      have hs := h s List.mem_cons_self
      simp only [isJsonBlank, Bool.or_eq_true, beq_iff_eq] at hs
      rcases hs with ((rfl | rfl) | rfl) | rfl
      · rfl
      · rfl
      · rfl
      · rfl

/-- The reader skips the blanks in front of a value. -/
theorem readValue_skipBlanks (fuel : Nat) (source : Source) :
    readValue fuel (skipBlanks source) = readValue fuel source := by
  cases fuel with
  | zero => simp only [readValue]
  | succ fuel => simp only [readValue, skipBlanks_skipBlanks]

/-- The reader skips the blanks in front of a member. -/
theorem readMembers_skipBlanks (fuel : Nat) (source : Source) :
    readMembers fuel (skipBlanks source) = readMembers fuel source := by
  cases fuel with
  | zero => simp only [readMembers]
  | succ fuel => simp only [readMembers, skipBlanks_skipBlanks]

theorem readItems_skipBlanks (fuel : Nat) (source : Source) :
    readItems fuel (skipBlanks source) = readItems fuel source := by
  cases fuel with
  | zero => simp only [readItems]
  | succ fuel => simp only [readItems, readValue_skipBlanks]

/-! ## The first character -/

/-- A number starts with a digit or with a minus sign. -/
theorem SpellsNumeral.starts {n : Numeral} {cs : List Char} (h : SpellsNumeral n cs) :
    ∃ c rest, cs = c :: rest ∧ (isDigit c = true ∨ c = '-') := by
  obtain ⟨exponent, -, rfl⟩ := h.spelled
  cases n.negative with
  | true => exact ⟨'-', _, rfl, .inr rfl⟩
  | false =>
      obtain ⟨c, cs, hcs⟩ := List.exists_cons_of_ne_nil h.wellFormed.whole_ne_nil
      have hdigit := h.wellFormed.whole_digits c (by simp [hcs])
      rw [hcs]
      exact ⟨c, _, rfl, .inl hdigit⟩

/-- Whether a character is the first one of some value. -/
def opensValue (c : Char) : Bool :=
  isDigit c || ['-', '"', '[', '\x7b', 'n', 't', 'f'].contains c

/-- A number opens a value. -/
theorem opensValue_of_number {c : Char} (h : isDigit c = true ∨ c = '-') : opensValue c = true := by
  rcases h with h | rfl
  · rw [opensValue, h, Bool.true_or]
  · rfl

/-- A blank is not the first character of a value. -/
theorem isJsonBlank_of_opens {c : Char} (h : opensValue c = true) :
    isJsonBlank (some c) = false := by
  have hne : ∀ d, opensValue d = false → c ≠ d := by
    rintro d hd rfl
    rw [h] at hd
    cases hd
  simp [isJsonBlank, hne ' ' rfl, hne '\n' rfl, hne '\t' rfl, hne '\r' rfl]

/-- A source that starts with the first character of a value. -/
def StartsValue (source : Source) : Prop :=
  ∃ c rest, source = some c :: rest ∧ opensValue c = true

theorem StartsValue.skipBlanks_eq {source : Source} (h : StartsValue source) :
    skipBlanks source = source := by
  obtain ⟨c, rest, rfl, hc⟩ := h
  exact skipBlanks_of_not_blank (isJsonBlank_of_opens hc) rest

/-- A value starts with a character that is the first one of some value. -/
theorem Spells.opens {v : Value} {spelling : Source} (h : Spells v spelling) :
    ∃ c rest, spelling = some c :: rest ∧ opensValue c = true := by
  cases h with
  | null => exact ⟨'n', _, rfl, rfl⟩
  | bool b =>
      cases b with
      | false => exact ⟨'f', _, rfl, rfl⟩
      | true => exact ⟨'t', _, rfl, rfl⟩
  | number hn =>
      obtain ⟨c, cs, rfl, hc⟩ := hn.starts
      exact ⟨c, _, rfl, opensValue_of_number hc⟩
  | text ht =>
      obtain ⟨units, inner, -, -, rfl⟩ := ht
      exact ⟨'"', _, rfl, rfl⟩
  | emptyArray _ => exact ⟨'[', _, rfl, rfl⟩
  | array _ => exact ⟨'[', _, rfl, rfl⟩
  | emptyObject _ => exact ⟨'\x7b', _, rfl, rfl⟩
  | object _ => exact ⟨'\x7b', _, rfl, rfl⟩

theorem Spells.starts {v : Value} {spelling : Source} (h : Spells v spelling) (rest : Source) :
    StartsValue (spelling ++ rest) := by
  obtain ⟨c, tail, rfl, hc⟩ := h.opens
  exact ⟨c, _, rfl, hc⟩

/-- What spells a value has the first character of a value in it. -/
theorem SpellsSpaced.opens {v : Value} {source : Source} (h : SpellsSpaced v source) :
    ∃ c, some c ∈ source ∧ opensValue c = true := by
  cases h with
  | mk hbefore h hafter =>
      obtain ⟨c, rest, rfl, hc⟩ := h.opens
      exact ⟨c, by simp, hc⟩

theorem SpellsSpaced.starts {v : Value} {spelling : Source} (h : SpellsSpaced v spelling)
    (rest : Source) : StartsValue (skipBlanks (spelling ++ rest)) := by
  cases h with
  | @mk _ before inner after hbefore h hafter =>
      have hstarts := h.starts (after ++ rest)
      rw [List.append_assoc, List.append_assoc, skipBlanks_append hbefore, hstarts.skipBlanks_eq]
      exact hstarts

theorem SpellsItems.starts {items : List Value} {spelling : Source}
    (h : SpellsItems items spelling) (rest : Source) :
    StartsValue (skipBlanks (spelling ++ rest)) := by
  cases h with
  | last h => exact h.starts rest
  | more h _ =>
      rw [List.append_assoc]
      exact h.starts _

theorem SpellsMember.starts {member : Option String × Value} {spelling : Source}
    (h : SpellsMember member spelling) (rest : Source) :
    StartsValue (skipBlanks (spelling ++ rest)) := by
  obtain ⟨hbefore, ⟨units, inner, -, -, rfl⟩, -, -⟩ := h
  rw [List.append_assoc, skipBlanks_append hbefore]
  exact ⟨'"', _, rfl, rfl⟩

theorem SpellsMembers.starts {members : List (Option String × Value)} {spelling : Source}
    (h : SpellsMembers members spelling) (rest : Source) :
    StartsValue (skipBlanks (spelling ++ rest)) := by
  cases h with
  | last h => exact h.starts rest
  | more h _ =>
      rw [List.append_assoc]
      exact h.starts _

/-! ## Reading one level -/

section

variable {fuel : Nat} {source : Source}

/-- What starts with a digit or a minus sign is read as a number. -/
theorem readValue_number {c : Char} (hc : isDigit c = true ∨ c = '-') :
    readValue (fuel + 1) (some c :: source) =
      (readNumeralPart (some c :: source)).map (fun read => (.number read.1, read.2)) := by
  have hne : ∀ d, isDigit d = false → d ≠ '-' → c ≠ d := by
    rintro d hd hminus rfl
    rcases hc with hc | hc
    · rw [hc] at hd
      cases hd
    · exact hminus hc
  rw [readValue, skipBlanks_of_not_blank (isJsonBlank_of_opens (opensValue_of_number hc))]
  split
  -- no other kind of value starts like this
  case h_7 => rfl
  all_goals
    next heq =>
      simp only [List.cons.injEq, Option.some.injEq] at heq
      exact absurd heq.1 (hne _ rfl (by decide))

/-- A list that is not empty is read item by item. -/
theorem readValue_items (h : StartsValue (skipBlanks source)) :
    readValue (fuel + 1) (some '[' :: source) =
      (readItems fuel source).map (fun read => (.array read.1, read.2)) := by
  rw [readValue, skipBlanks_of_not_blank rfl, ← readItems_skipBlanks]
  obtain ⟨c, rest, hsource, hc⟩ := h
  simp only [hsource]
  split
  · next heq =>
    cases heq
    cases hc
  · rfl

/-- An object that is not empty is read member by member. -/
theorem readValue_members (h : StartsValue (skipBlanks source)) :
    readValue (fuel + 1) (some '\x7b' :: source) =
      (readMembers fuel source).map (fun read => (.object read.1, read.2)) := by
  rw [readValue, skipBlanks_of_not_blank rfl, ← readMembers_skipBlanks]
  obtain ⟨c, rest, hsource, hc⟩ := h
  simp only [hsource]
  split
  · next heq =>
    cases heq
    cases hc
  · rfl

/-- A list goes on after a comma. -/
theorem readItems_comma {item : Value} {after tail : Source}
    (hread : readValue fuel source = some (item, after))
    (hcomma : skipBlanks after = some ',' :: tail) :
    readItems (fuel + 1) source =
      (readItems fuel tail).map (fun read => (item :: read.1, read.2)) := by
  rw [readItems, hread, Option.bind_eq_bind, Option.bind_some]
  simp only [hcomma]
  cases readItems fuel tail <;> rfl

/-- A list ends with a bracket. -/
theorem readItems_close {item : Value} {after tail : Source}
    (hread : readValue fuel source = some (item, after))
    (hclose : skipBlanks after = some ']' :: tail) :
    readItems (fuel + 1) source = some ([item], tail) := by
  rw [readItems, hread, Option.bind_eq_bind, Option.bind_some]
  simp only [hclose]

/-- What is read after the value of a member. -/
def readAfterMember (fuel : Nat) (member : Option String × Value) (source : Source) :
    Option (List (Option String × Value) × Source) :=
  match skipBlanks source with
  | some ',' :: rest => do
    let (members, rest) ← readMembers fuel rest
    some (member :: members, rest)
  | some '\x7d' :: rest => some ([member], rest)
  | _ => none

/-- An object goes on after a comma. -/
theorem readAfterMember_comma {member : Option String × Value} {tail : Source}
    (hcomma : skipBlanks source = some ',' :: tail) :
    readAfterMember fuel member source =
      (readMembers fuel tail).map (fun read => (member :: read.1, read.2)) := by
  simp only [readAfterMember, hcomma]
  cases readMembers fuel tail <;> rfl

/-- An object ends with a brace. -/
theorem readAfterMember_close {member : Option String × Value} {tail : Source}
    (hclose : skipBlanks source = some '\x7d' :: tail) :
    readAfterMember fuel member source = some ([member], tail) := by
  simp only [readAfterMember, hclose]

/-- A text is read from any spelling of it. -/
theorem readValue_spelledText {t : Option String} {spelling : Source} (h : SpellsText t spelling)
    (rest : Source) :
    readValue (fuel + 1) (spelling ++ rest) = some (.text t, rest) := by
  obtain ⟨inner, rfl, hread⟩ := readText_spelled h
  rw [List.cons_append, readValue, skipBlanks_of_not_blank rfl]
  simp only [hread]
  rfl

/-- A number is read from any spelling of it. -/
theorem readValue_spelledNumeral {n : Numeral} {cs : List Char} (h : SpellsNumeral n cs)
    {rest : Source} (hrest : continuesNumeral rest = false) :
    readValue (fuel + 1) (cs.map some ++ rest) = some (.number n, rest) := by
  have hread := readNumeralPart_spelled h hrest
  obtain ⟨c, cs, rfl, hc⟩ := h.starts
  exact (readValue_number hc).trans (congrArg _ hread)

/-- A member is read when its value is. -/
theorem readMembers_spelled {name : Option String} {value : Value}
    {before key after rest : Source} (hbefore : Blanks before) (hname : SpellsText name key)
    (hafter : Blanks after) (hread : readValue fuel source = some (value, rest)) :
    readMembers (fuel + 1) (before ++ (key ++ (after ++ some ':' :: source))) =
      readAfterMember fuel (name, value) rest := by
  obtain ⟨inner, rfl, hkey⟩ := readText_spelled hname
  have hcolon : skipBlanks (after ++ some ':' :: source) = some ':' :: source :=
    (skipBlanks_append hafter _).trans (skipBlanks_of_not_blank rfl source)
  rw [← readMembers_skipBlanks, skipBlanks_append hbefore, readMembers_skipBlanks,
    List.cons_append, readMembers, skipBlanks_of_not_blank rfl]
  simp only [hkey, Option.bind_eq_bind, Option.bind_some, hcolon, hread]
  rfl

end

/-! ## Every spelling is read -/

mutual

/-- A value is read from any spelling of it, if nothing after it could belong to it. -/
theorem Spells.read : ∀ {v : Value} {spelling : Source}, Spells v spelling →
    ∀ {fuel : Nat} {rest : Source}, spelling.length < fuel → continuesNumeral rest = false →
      readValue fuel (spelling ++ rest) = some (v, rest)
  | _, _, _, 0, _, hlength, _ => absurd hlength (Nat.not_lt_zero _)
  | _, _, .null, fuel + 1, rest, _, _ => rfl
  | _, _, .bool true, fuel + 1, rest, _, _ => rfl
  | _, _, .bool false, fuel + 1, rest, _, _ => rfl
  | _, _, .number h, fuel + 1, rest, _, hrest => readValue_spelledNumeral h hrest
  | _, _, .text h, fuel + 1, rest, _, _ => readValue_spelledText h rest
  | _, _, .emptyArray h, fuel + 1, rest, _, _ => by
    rw [List.cons_append, List.append_assoc, readValue, skipBlanks_of_not_blank rfl]
    simp only [skipBlanks_append h]
    rfl
  | _, _, .array h, fuel + 1, rest, hlength, _ => by
    have hlength' := hlength
    simp only [List.length_cons, List.length_append] at hlength'
    rw [List.cons_append, List.append_assoc, readValue_items (h.starts _), List.singleton_append,
      h.read (by simpa using hlength')]
    rfl
  | _, _, .emptyObject h, fuel + 1, rest, _, _ => by
    rw [List.cons_append, List.append_assoc, readValue, skipBlanks_of_not_blank rfl]
    simp only [skipBlanks_append h]
    rfl
  | _, _, .object h, fuel + 1, rest, hlength, _ => by
    have hlength' := hlength
    simp only [List.length_cons, List.length_append] at hlength'
    rw [List.cons_append, List.append_assoc, readValue_members (h.starts _), List.singleton_append,
      h.read (by simpa using hlength')]
    rfl

/-- A value with blanks around it is read up to blanks. -/
theorem SpellsSpaced.read : ∀ {v : Value} {spelling : Source}, SpellsSpaced v spelling →
    ∀ {fuel : Nat} {rest : Source}, spelling.length < fuel → continuesNumeral rest = false →
      ∃ after, readValue fuel (spelling ++ rest) = some (v, after) ∧
        skipBlanks after = skipBlanks rest
  | _, _, .mk hbefore h hafter, fuel, rest, hlength, hrest => by
    refine ⟨_ ++ rest, ?_, skipBlanks_append hafter rest⟩
    rw [List.append_assoc, List.append_assoc, ← readValue_skipBlanks, skipBlanks_append hbefore,
      readValue_skipBlanks]
    refine h.read ?_ (continuesNumeral_append hafter hrest)
    simp only [List.length_append] at hlength
    omega

/-- The items of a list are read from any spelling of them. -/
theorem SpellsItems.read : ∀ {items : List Value} {spelling : Source}, SpellsItems items spelling →
    ∀ {fuel : Nat} {rest : Source}, spelling.length + 1 < fuel →
      readItems fuel (spelling ++ some ']' :: rest) = some (items, rest)
  | _, _, _, 0, _, hlength => absurd hlength (Nat.not_lt_zero _)
  | _, _, .last h, fuel + 1, rest, hlength => by
    have hbracket : continuesNumeral (some ']' :: rest) = false := rfl
    obtain ⟨after, hread, hafter⟩ := h.read (Nat.lt_of_succ_lt_succ hlength) hbracket
    exact readItems_close hread (hafter.trans (skipBlanks_of_not_blank rfl _))
  | _, _, @SpellsItems.more _ _ spelling more h hitems, fuel + 1, rest, hlength => by
    simp only [List.length_append, List.length_cons] at hlength
    have hcomma : continuesNumeral (some ',' :: (more ++ some ']' :: rest)) = false := rfl
    have hfirst : spelling.length < fuel := by omega
    obtain ⟨after, hread, hafter⟩ := h.read hfirst hcomma
    rw [List.append_assoc, List.cons_append,
      readItems_comma hread (hafter.trans (skipBlanks_of_not_blank rfl _)), hitems.read (by omega)]
    rfl

/-- A member is read up to blanks, and then what follows it. -/
theorem SpellsMember.read : ∀ {member : Option String × Value} {spelling : Source},
    SpellsMember member spelling →
    ∀ {fuel : Nat} {rest : Source}, spelling.length < fuel → continuesNumeral rest = false →
      ∃ after, readMembers (fuel + 1) (spelling ++ rest) = readAfterMember fuel member after ∧
        skipBlanks after = skipBlanks rest
  | _, _, @SpellsMember.mk _ _ _ _ _ spelling hbefore hname hafter h, fuel, rest, hlength,
      hrest => by
    simp only [List.length_append, List.length_cons] at hlength
    have hvalue : spelling.length < fuel := by omega
    obtain ⟨after, hread, hskip⟩ := h.read hvalue hrest
    refine ⟨after, ?_, hskip⟩
    rw [← readMembers_spelled hbefore hname hafter hread]
    simp only [List.append_assoc, List.cons_append]

/-- The members of an object are read from any spelling of them. -/
theorem SpellsMembers.read : ∀ {members : List (Option String × Value)} {spelling : Source},
    SpellsMembers members spelling →
    ∀ {fuel : Nat} {rest : Source}, spelling.length + 1 < fuel →
      readMembers fuel (spelling ++ some '\x7d' :: rest) = some (members, rest)
  | _, _, _, 0, _, hlength => absurd hlength (Nat.not_lt_zero _)
  | _, _, .last h, fuel + 1, rest, hlength => by
    have hbrace : continuesNumeral (some '\x7d' :: rest) = false := rfl
    obtain ⟨after, hread, hafter⟩ := h.read (Nat.lt_of_succ_lt_succ hlength) hbrace
    rw [hread]
    exact readAfterMember_close (hafter.trans (skipBlanks_of_not_blank rfl _))
  | _, _, @SpellsMembers.more _ _ spelling more h hmembers, fuel + 1, rest, hlength => by
    simp only [List.length_append, List.length_cons] at hlength
    have hcomma : continuesNumeral (some ',' :: (more ++ some '\x7d' :: rest)) = false := rfl
    have hfirst : spelling.length < fuel := by omega
    obtain ⟨after, hread, hafter⟩ := h.read hfirst hcomma
    rw [List.append_assoc, List.cons_append, hread,
      readAfterMember_comma (hafter.trans (skipBlanks_of_not_blank rfl _)),
      hmembers.read (by omega)]
    rfl

end

/-! ## Nothing else is read -/

theorem eq_append_of_skipWord {word : List Char} {source rest : Source}
    (h : skipWord word source = some rest) : source = word.map some ++ rest := by
  fun_induction skipWord word source with
  | case1 source =>
      cases h
      rfl
  | case2 c word source ih =>
      rw [ih h]
      rfl
  | case3 => cases h
  | case4 => cases h

/-- With a number of steps nothing but spellings is read. -/
structure ReadsSpellings (fuel : Nat) : Prop where
  value : ∀ {source rest : Source} {v : Value}, readValue fuel source = some (v, rest) →
    ∃ spelling, Spells v spelling ∧ skipBlanks source = spelling ++ rest
  items : ∀ {source rest : Source} {items : List Value},
    readItems fuel source = some (items, rest) →
    ∃ spelling, SpellsItems items spelling ∧ source = spelling ++ some ']' :: rest
  members : ∀ {source rest : Source} {members : List (Option String × Value)},
    readMembers fuel source = some (members, rest) →
    ∃ spelling, SpellsMembers members spelling ∧ source = spelling ++ some '\x7d' :: rest

section

variable {fuel : Nat} {source rest : Source}

/-- One more step takes a spelling of a value. -/
theorem ReadsSpellings.value_succ (hreads : ReadsSpellings fuel) {v : Value}
    (h : readValue (fuel + 1) source = some (v, rest)) :
    ∃ spelling, Spells v spelling ∧ skipBlanks source = spelling ++ rest := by
  rw [readValue] at h
  generalize skipBlanks source = start at h ⊢
  split at h
  · next inner =>
    obtain ⟨blanks, hblanks, hinner⟩ := eq_append_skipBlanks inner
    split at h
    · next hempty =>
      cases h
      rw [hempty] at hinner
      exact ⟨_, .emptyObject hblanks, by simp [hinner]⟩
    · obtain ⟨⟨members, tail⟩, hmembers, heq⟩ := Option.map_eq_some_iff.1 h
      cases heq
      rw [readMembers_skipBlanks] at hmembers
      obtain ⟨spelling, hspelling, rfl⟩ := hreads.members hmembers
      exact ⟨_, .object hspelling, by simp⟩
  · next inner =>
    obtain ⟨blanks, hblanks, hinner⟩ := eq_append_skipBlanks inner
    split at h
    · next hempty =>
      cases h
      rw [hempty] at hinner
      exact ⟨_, .emptyArray hblanks, by simp [hinner]⟩
    · obtain ⟨⟨items, tail⟩, hitems, heq⟩ := Option.map_eq_some_iff.1 h
      cases heq
      rw [readItems_skipBlanks] at hitems
      obtain ⟨spelling, hspelling, rfl⟩ := hreads.items hitems
      exact ⟨_, .array hspelling, by simp⟩
  · obtain ⟨⟨text, tail⟩, htext, heq⟩ := Option.map_eq_some_iff.1 h
    cases heq
    obtain ⟨inner, rfl, hspelling⟩ := spelled_of_readText htext
    exact ⟨_, .text hspelling, rfl⟩
  · obtain ⟨tail, hword, heq⟩ := Option.map_eq_some_iff.1 h
    cases heq
    rw [eq_append_of_skipWord hword]
    exact ⟨_, .null, rfl⟩
  · obtain ⟨tail, hword, heq⟩ := Option.map_eq_some_iff.1 h
    cases heq
    rw [eq_append_of_skipWord hword]
    exact ⟨_, .bool true, rfl⟩
  · obtain ⟨tail, hword, heq⟩ := Option.map_eq_some_iff.1 h
    cases heq
    rw [eq_append_of_skipWord hword]
    exact ⟨_, .bool false, rfl⟩
  · obtain ⟨⟨n, tail⟩, hn, heq⟩ := Option.map_eq_some_iff.1 h
    cases heq
    obtain ⟨cs, hcs, rfl⟩ := spelled_of_readNumeralPart hn
    exact ⟨_, .number hcs, rfl⟩

/-- A value that was read has blanks in front of it. -/
theorem ReadsSpellings.spaced (hreads : ReadsSpellings fuel) {v : Value}
    (h : readValue fuel source = some (v, rest)) :
    ∃ spelling, SpellsSpaced v spelling ∧ source = spelling ++ skipBlanks rest := by
  obtain ⟨spelling, hspelling, hsource⟩ := hreads.value h
  obtain ⟨before, hbefore, heq⟩ := eq_append_skipBlanks source
  obtain ⟨after, hafter, hrest⟩ := eq_append_skipBlanks rest
  refine ⟨_, .mk hbefore hspelling hafter, ?_⟩
  rw [hsource, hrest] at heq
  simpa [skipBlanks_append hafter, skipBlanks_skipBlanks] using heq

/-- One more step takes a spelling of items. -/
theorem ReadsSpellings.items_succ (hreads : ReadsSpellings fuel) {items : List Value}
    (h : readItems (fuel + 1) source = some (items, rest)) :
    ∃ spelling, SpellsItems items spelling ∧ source = spelling ++ some ']' :: rest := by
  rw [readItems, Option.bind_eq_bind, Option.bind_eq_some_iff] at h
  obtain ⟨⟨item, after⟩, hitem, h⟩ := h
  obtain ⟨first, hfirst, rfl⟩ := hreads.spaced hitem
  dsimp only at h
  generalize skipBlanks after = next at h ⊢
  split at h
  · simp only [Option.bind_eq_bind, Option.bind_eq_some_iff] at h
    obtain ⟨⟨more, tail⟩, hmore, heq⟩ := h
    cases heq
    obtain ⟨spelling, hspelling, rfl⟩ := hreads.items hmore
    exact ⟨_, .more hfirst hspelling, by simp⟩
  · cases h
    exact ⟨_, .last hfirst, rfl⟩
  · cases h

/-- One more step takes a spelling of members. -/
theorem ReadsSpellings.members_succ (hreads : ReadsSpellings fuel)
    {members : List (Option String × Value)}
    (h : readMembers (fuel + 1) source = some (members, rest)) :
    ∃ spelling, SpellsMembers members spelling ∧ source = spelling ++ some '\x7d' :: rest := by
  obtain ⟨before, hbefore, hsource⟩ := eq_append_skipBlanks source
  rw [readMembers] at h
  split at h
  · next inner hquote =>
    rw [hquote] at hsource
    simp only [Option.bind_eq_bind, Option.bind_eq_some_iff] at h
    obtain ⟨⟨name, afterName⟩, hname, h⟩ := h
    obtain ⟨key, rfl, hkey⟩ := spelled_of_readText hname
    obtain ⟨between, hbetween, hafterName⟩ := eq_append_skipBlanks afterName
    dsimp only at h
    split at h
    · next tail hcolon =>
      rw [hcolon] at hafterName
      simp only [Option.bind_eq_some_iff] at h
      obtain ⟨⟨value, afterValue⟩, hvalue, h⟩ := h
      obtain ⟨spelling, hspelling, rfl⟩ := hreads.spaced hvalue
      have hmember := SpellsMember.mk hbefore hkey hbetween hspelling
      dsimp only at h
      generalize skipBlanks afterValue = next at h hsource hafterName
      split at h
      · simp only [Option.bind_eq_some_iff] at h
        obtain ⟨⟨more, last⟩, hmore, heq⟩ := h
        cases heq
        obtain ⟨others, hothers, rfl⟩ := hreads.members hmore
        exact ⟨_, .more hmember hothers, by simp [hsource, hafterName]⟩
      · cases h
        exact ⟨_, .last hmember, by simp [hsource, hafterName]⟩
      · cases h
    · cases h
  · cases h

end

/-- With any number of steps nothing but spellings is read. -/
theorem readsSpellings (fuel : Nat) : ReadsSpellings fuel := by
  induction fuel with
  | zero =>
      exact
        { value := fun h => by simp [readValue] at h
          items := fun h => by simp [readItems] at h
          members := fun h => by simp [readMembers] at h }
  | succ fuel ih =>
      exact
        { value := fun h => ih.value_succ h
          items := fun h => ih.items_succ h
          members := fun h => ih.members_succ h }

/-! ## Documents -/

/-- A source is read as a document of a value exactly when it spells the value, with blanks around
it. -/
theorem document_eq_some_iff {source : Source} {v : Value} :
    document source = some v ↔ SpellsSpaced v source := by
  unfold document
  constructor
  · intro h
    split at h
    · next found rest hread =>
      split at h
      · next hend =>
        cases h
        obtain ⟨spelling, hspelling, hsource⟩ := (readsSpellings _).spaced hread
        rw [List.isEmpty_iff.1 hend, List.append_nil] at hsource
        rw [hsource]
        exact hspelling
      · cases h
    · cases h
  · intro h
    obtain ⟨after, hread, hafter⟩ :=
      h.read (Nat.lt_succ_self source.length) (rfl : continuesNumeral [] = false)
    rw [List.append_nil] at hread
    rw [hread]
    dsimp only
    rw [hafter]
    rfl

end HostVitals.Json
