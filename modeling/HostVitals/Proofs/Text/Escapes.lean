import HostVitals.Proofs.Json.Numerals
import HostVitals.Text.Styled

/-!
# Escape sequences

An escape sequence goes from `ESC [` to the next `m`.  A stretch of text in a style is such a
sequence, the text and another sequence.  So taking the escape sequences out of lines with colours
leaves the lines without colours, as long as the stretches hold no escape character of their own.

Main results:

- `removeEscapes_append`, `removeEscapes_sequence`: what is kept and what is taken out.
- `removeEscapes_span`: a stretch with colours keeps its text.
- `removeEscapes_writeLines`: lines with colours keep their text.
-/

namespace HostVitals.Text

open HostVitals.Number

/-! ## Escape sequences -/

/-- Whether a text starts with an escape sequence: `ESC [`, and an `m` somewhere after it. -/
def startsEscape : List Char → Bool
  | a :: b :: rest => a == escapeChar && b == '[' && rest.contains 'm'
  | _ => false

/-- The text without escape sequences, where the flag tells that it starts inside of one. -/
def dropEscapes : Bool → List Char → List Char
  | _, [] => []
  | true, c :: cs => dropEscapes (c != 'm') cs
  | false, c :: cs =>
    if startsEscape (c :: cs) then dropEscapes true cs else c :: dropEscapes false cs

/-- The text without its escape sequences. -/
def removeEscapes (cs : List Char) : List Char :=
  dropEscapes false cs

/-- A text without an escape character. -/
def EscapeFree (cs : List Char) : Prop :=
  escapeChar ∉ cs

instance : DecidablePred EscapeFree := fun cs =>
  inferInstanceAs (Decidable (escapeChar ∉ cs))

section

variable {cs ds : List Char}

theorem EscapeFree.append (hcs : EscapeFree cs) (hds : EscapeFree ds) : EscapeFree (cs ++ ds) := by
  intro hmem
  rcases List.mem_append.1 hmem with hmem | hmem
  · exact hcs hmem
  · exact hds hmem

theorem EscapeFree.cons {c : Char} (hc : escapeChar ≠ c) (hcs : EscapeFree cs) :
    EscapeFree (c :: cs) := by
  intro hmem
  rcases List.mem_cons.1 hmem with heq | hmem
  · exact hc heq
  · exact hcs hmem

theorem escapeFree_replicate (n : Nat) {c : Char} (hc : escapeChar ≠ c) :
    EscapeFree (List.replicate n c) :=
  fun hmem => hc (List.eq_of_mem_replicate hmem)

/-- A text without an escape character stays as it is. -/
theorem removeEscapes_append (h : EscapeFree cs) (rest : List Char) :
    removeEscapes (cs ++ rest) = cs ++ removeEscapes rest := by
  -- No sequence starts in the text, whatever follows it: each character is kept in its turn.
  induction cs with
  | nil => rfl
  | cons c cs ih =>
      have hc : (c == escapeChar) = false := by
        rw [beq_eq_false_iff_ne]
        intro heq
        exact h (heq ▸ List.mem_cons_self)
      have hcs : EscapeFree cs := fun hmem => h (List.mem_cons_of_mem c hmem)
      have hstart : startsEscape (c :: (cs ++ rest)) = false := by
        cases hrest : cs ++ rest with
        | nil => rfl
        | cons d ds => simp [startsEscape, hc]
      have htail := ih hcs
      unfold removeEscapes at htail ⊢
      rw [List.cons_append, dropEscapes, if_neg (by simp [hstart]), htail, List.cons_append]

/-- The inside of an escape sequence is passed over, up to its end. -/
theorem dropEscapes_inside (h : 'm' ∉ cs) (rest : List Char) :
    dropEscapes true (cs ++ 'm' :: rest) = removeEscapes rest := by
  induction cs with
  | nil => rfl
  | cons c cs ih =>
      have hc : (c != 'm') = true := by
        rw [bne_iff_ne]
        intro heq
        exact h (heq ▸ List.mem_cons_self)
      rw [List.cons_append, dropEscapes, hc]
      exact ih (fun hmem => h (List.mem_cons_of_mem c hmem))

/-- An escape sequence is taken out. -/
theorem removeEscapes_sequence (h : 'm' ∉ cs) (rest : List Char) :
    removeEscapes (escapeChar :: '[' :: cs ++ 'm' :: rest) = removeEscapes rest := by
  have hstart : startsEscape (escapeChar :: '[' :: (cs ++ 'm' :: rest)) = true := by
    simp [startsEscape]
  have hinside : 'm' ∉ '[' :: cs := by simpa using h
  rw [List.cons_append, List.cons_append, removeEscapes, dropEscapes, if_pos hstart]
  exact dropEscapes_inside hinside rest

end

/-! ## Styles -/

/-- The codes of a style are digits and semicolons. -/
theorem mem_codeText {style : Style} {c : Char} (h : c ∈ codeText style) :
    c = ';' ∨ isDigit c = true := by
  induction style with
  | nil => simp [codeText, List.intercalate] at h
  | cons code style ih =>
      cases style with
      | nil =>
          simp only [codeText, List.map_cons, List.map_nil, List.intercalate_singleton] at h
          exact .inr (isDigit_of_mem_natDigits h)
      | cons next style =>
          simp only [codeText, List.map_cons, List.intercalate_cons_cons] at h ih
          simp only [List.mem_append, List.mem_singleton] at h
          rcases h with (hdigit | rfl) | hrest
          · exact .inr (isDigit_of_mem_natDigits hdigit)
          · exact .inl rfl
          · exact ih hrest

/-- What switches a style on is an escape sequence. -/
theorem removeEscapes_switchOn (style : Style) (rest : List Char) :
    removeEscapes (switchOn style ++ rest) = removeEscapes rest := by
  have hcodes : 'm' ∉ codeText style := by
    intro hmem
    rcases mem_codeText hmem with heq | hdigit
    · exact absurd heq (by decide)
    · exact absurd hdigit (by decide)
  rw [switchOn, List.append_assoc]
  exact removeEscapes_sequence hcodes rest

/-- What resets all styles is an escape sequence. -/
theorem removeEscapes_resetAll (rest : List Char) :
    removeEscapes (resetAll ++ rest) = removeEscapes rest := by
  have hcode : 'm' ∉ ['0'] := by decide
  exact removeEscapes_sequence hcode rest

/-- A text without an escape character has no reset in it. -/
theorem restyle_eq_self {again text : List Char} (h : EscapeFree text) :
    restyle again text = text := by
  fun_induction restyle again text with
  | case1 a b c d rest hreset ih =>
      -- A reset would start with an escape character.
      have ha : a = escapeChar := by
        rw [resetAll, List.cons.injEq] at hreset
        exact hreset.1
      exact absurd (ha ▸ List.mem_cons_self) h
  | case2 a b c d rest hplain ih =>
      rw [ih (fun hmem => h (List.mem_cons_of_mem a hmem))]
  | case3 => rfl

/-! ## Lines -/

/-- Lines whose stretches have no escape character of their own. -/
def LinesFree (lines : List Line) : Prop :=
  ∀ line ∈ lines, ∀ span ∈ line, EscapeFree span.text

/-- A stretch with colours has the text of the stretch between its escape sequences. -/
theorem removeEscapes_span {span : Span} (h : EscapeFree span.text) (rest : List Char) :
    removeEscapes (span.write true ++ rest) = span.write false ++ removeEscapes rest := by
  rw [Span.write_colourless]
  by_cases hstyle : span.style.isEmpty = true
  · have hplain : span.write true = span.text := by simp [Span.write, hstyle]
    rw [hplain, removeEscapes_append h]
  · have hstyled : span.write true = switchOn span.style ++ span.text ++ resetAll := by
      simp [Span.write, hstyle, restyle_eq_self h]
    rw [hstyled, List.append_assoc, List.append_assoc, removeEscapes_switchOn,
      removeEscapes_append h, removeEscapes_resetAll]

theorem removeEscapes_spans {line : Line} (h : ∀ span ∈ line, EscapeFree span.text)
    (rest : List Char) :
    removeEscapes (writeSpans true line ++ rest) = writeSpans false line ++ removeEscapes rest := by
  induction line with
  | nil => rfl
  | cons span line ih =>
      have hspan : EscapeFree span.text := h span List.mem_cons_self
      have hline := ih (fun other hother => h other (List.mem_cons_of_mem span hother))
      unfold writeSpans at hline ⊢
      rw [List.flatMap_cons, List.flatMap_cons, List.append_assoc, removeEscapes_span hspan, hline,
        List.append_assoc]

/-- Taking the escape sequences out of coloured lines leaves the lines without colours. -/
theorem removeEscapes_writeLines {lines : List Line} (h : LinesFree lines) :
    removeEscapes (writeLines true lines) = writeLines false lines := by
  induction lines with
  | nil => rfl
  | cons line lines ih =>
      have hline := removeEscapes_spans (h line List.mem_cons_self)
      have hrest := ih (fun other hother => h other (List.mem_cons_of_mem line hother))
      have hend : EscapeFree ['\n'] := by decide
      unfold writeLines at hrest ⊢
      rw [List.flatMap_cons, List.flatMap_cons, List.append_assoc, hline, removeEscapes_append hend,
        hrest, List.append_assoc]

/-- Lines with colours keep their text, also where it looks like a part of an escape sequence. -/
example : removeEscapes (writeLines true [[sayIn .red "[1m", say " m"]]) = "[1m m\n".toList := by
  decide +kernel

section

variable {as bs : List Line}

theorem LinesFree.append (has : LinesFree as) (hbs : LinesFree bs) : LinesFree (as ++ bs) := by
  intro line hline
  rcases List.mem_append.1 hline with hline | hline
  · exact has line hline
  · exact hbs line hline

theorem linesFree_nil : LinesFree [] := by
  intro line hline
  cases hline

theorem LinesFree.cons {line : Line} (hline : ∀ span ∈ line, EscapeFree span.text)
    (hrest : LinesFree as) : LinesFree (line :: as) := by
  intro other hother
  rcases List.mem_cons.1 hother with rfl | hother
  · exact hline
  · exact hrest other hother

end

end HostVitals.Text
