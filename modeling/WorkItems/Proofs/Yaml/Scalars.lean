import WorkItems.Proofs.Yaml.Steps
import WorkItems.Yaml.Data.Printer
/-!
# Plain and quoted scalars on one line

What the three readers of scalars make of a text that has no line breaks. The text in front of the
cursor is a scalar and a tail: the reader gets through the scalar with a character for each
character, and what the tail starts with makes it stop.
-/

namespace WorkItems.Yaml

/-! ## Characters -/

theorem isBreak_newline : isBreak '\n' = true := by decide

theorem ne_return_of_not_isBreak {c : Char} (h : isBreak c = false) : c ≠ '\r' := by
  rintro rfl
  exact absurd h (by decide)

theorem ne_newline_of_not_isBreak {c : Char} (h : isBreak c = false) : c ≠ '\n' := by
  rintro rfl
  exact absurd h (by decide)

theorem atGap_append {cs tail : List Char} (h : cs ≠ []) : atGap (cs ++ tail) = atGap cs := by
  cases cs with
  | nil => exact absurd rfl h
  | cons c cs => rfl

/-! ## Plain scalars -/

/-- A text within a line that a plain scalar may hold. -/
structure IsPlain (inFlow : Bool) (text : List Char) : Prop where
  noBreak : ∀ c ∈ text, isBreak c = false
  noTab : '\t' ∉ text
  noIndicator : hasInnerIndicator text = false
  inFlow : inFlow = true → ∀ c ∈ text, isFlowIndicator c = false ∧ c ≠ ':'

theorem IsPlain.tail {inFlow : Bool} {c : Char} {cs : List Char} (h : IsPlain inFlow (c :: cs)) :
    IsPlain inFlow cs where
  noBreak d hd := h.noBreak d (List.mem_cons_of_mem _ hd)
  noTab hd := h.noTab (List.mem_cons_of_mem _ hd)
  noIndicator := by
    have hi := h.noIndicator
    rw [hasInnerIndicator, Bool.or_eq_false_iff] at hi
    exact hi.2
  inFlow hf d hd := h.inFlow hf d (List.mem_cons_of_mem _ hd)

/-- What is read so far of a plain scalar can be gone on with in front of `cs`. -/
def PlainSoFar (indent : Nat) (f : Folded) (p : Position) (cs : List Char) : Prop :=
  (f.gap = .none ∧ indent ≤ p.column + 1) ∨
    ((∃ sp, f.gap = .spaces sp) ∧ indent ≤ p.column ∧ 0 < p.column ∧ cs.head? ≠ some '#')

section Plain

variable {inFlow : Bool} {indent : Nat}

theorem plain_cons {f : Folded} {p : Position} {c : Char} {cs : List Char} (h : c ≠ '\r') :
    plain inFlow indent f p (c :: cs) =
      if isSpace c then
        if f.onNewLine && p.column < indent && c == '\t' then .error .badIndentation
        else plain inFlow indent (f.addSpace c) (p.advance 1) cs
      else if isBreak c then plain inFlow indent (f.addBreak (readBreak c)) (p.newline 1) cs
      else if f.gap != .none && ((!inFlow && p.column < indent) || c == '#' ||
          (p.column == 0 && atMarker (c :: cs))) then
        .ok (endPlain f p (c :: cs))
      else if isStrayColon inFlow c cs then .error .unexpectedColon
      else if endsPlain inFlow c cs then .ok (endPlain f p (c :: cs))
      else plain inFlow indent (f.addChar c) (p.advance 1) cs :=
  plain.eq_3 _ _ _ _ _ _ fun _ hc => absurd hc h

theorem PlainSoFar.space {f : Folded} {p : Position} {cs : List Char}
    (h : PlainSoFar indent f p (' ' :: cs)) (hcs : cs.head? ≠ some '#') :
    PlainSoFar indent (f.addSpace ' ') (p.advance 1) cs := by
  refine .inr ⟨?_, ?_, Nat.succ_pos _, hcs⟩
  · rcases h with ⟨hgap, -⟩ | ⟨⟨sp, hgap⟩, -⟩ <;> simp [Folded.addSpace, hgap]
  · rcases h with ⟨-, h⟩ | ⟨-, h, -⟩ <;> simp only [Position.advance] <;> omega

theorem PlainSoFar.close_space {f : Folded} {p : Position} {cs : List Char}
    (h : PlainSoFar indent f p cs) : (f.addSpace ' ').close = ' ' :: f.close := by
  rcases h with ⟨hgap, -⟩ | ⟨⟨sp, hgap⟩, -⟩ <;> simp [Folded.addSpace, Folded.close, hgap]

theorem PlainSoFar.char {f : Folded} {p : Position} {c : Char} {cs ds : List Char}
    (h : PlainSoFar indent f p cs) : PlainSoFar indent (f.addChar c) (p.advance 1) ds := by
  refine .inl ⟨rfl, ?_⟩
  rcases h with ⟨-, hi⟩ | ⟨-, hi, -⟩ <;> simp only [Position.advance] <;> omega

/-- A character of a plain scalar does not end it. -/
theorem IsPlain.not_endsPlain {c : Char} {cs : List Char} (h : IsPlain inFlow (c :: cs))
    (tail : List Char) : endsPlain inFlow c (cs ++ tail) = false := by
  have hinner := h.noIndicator
  simp only [hasInnerIndicator, Bool.or_eq_false_iff, Bool.and_eq_false_iff] at hinner
  have hcolon : (c == ':' && atGap (cs ++ tail)) = false := by
    rcases hinner.1.1 with hc | hat
    · simp [hc]
    · have hne : cs ≠ [] := by
        rintro rfl
        exact absurd hat (by decide)
      rw [atGap_append hne, hat, Bool.and_false]
  cases inFlow with
  | false => simp [endsPlain, hcolon]
  | true => simp [endsPlain, hcolon, (h.inFlow rfl c (List.mem_cons_self ..)).1]

/-- A character that is no space is read on. -/
theorem plain_char {f : Folded} {p : Position} {c : Char} {cs : List Char} (tail : List Char)
    (h : IsPlain inFlow (c :: cs)) (hspace : c ≠ ' ')
    (hsofar : PlainSoFar indent f p (c :: (cs ++ tail))) :
    plain inFlow indent f p (c :: (cs ++ tail)) =
      plain inFlow indent (f.addChar c) (p.advance 1) (cs ++ tail) := by
  have hbreak : isBreak c = false := h.noBreak c (List.mem_cons_self ..)
  have htab : c ≠ '\t' := fun hc => h.noTab (hc ▸ List.mem_cons_self ..)
  have hnotspace : isSpace c = false := by simp [isSpace, hspace, htab]
  have hgap : (f.gap != .none && ((!inFlow && decide (p.column < indent)) || c == '#' ||
      (p.column == 0 && atMarker (c :: (cs ++ tail))))) = false := by
    rcases hsofar with ⟨hnone, -⟩ | ⟨-, hindent, hpos, hhash⟩
    · simp [hnone]
    · have hc : c ≠ '#' := fun hc => hhash (by rw [hc]; rfl)
      simp only [Bool.and_eq_false_iff, Bool.or_eq_false_iff, beq_eq_false_iff_ne,
        decide_eq_false_iff_not]
      exact .inr ⟨⟨.inr (by omega), hc⟩, .inl (by omega)⟩
  have hstray : isStrayColon inFlow c (cs ++ tail) = false := by
    cases inFlow with
    | false => rfl
    | true => simp [isStrayColon, (h.inFlow rfl c (List.mem_cons_self ..)).2]
  rw [plain_cons (ne_return_of_not_isBreak hbreak), if_neg (by simp [hnotspace]),
    if_neg (by simp [hbreak]), if_neg (by simp [hgap]), if_neg (by simp [hstray]),
    if_neg (by simp [h.not_endsPlain tail])]

/-- A space of a plain scalar has no comment behind it. -/
theorem IsPlain.head?_ne_hash {cs : List Char} (h : IsPlain inFlow (' ' :: cs)) (hne : cs ≠ [])
    (tail : List Char) : (cs ++ tail).head? ≠ some '#' := by
  have hinner := h.noIndicator
  simp only [hasInnerIndicator, Bool.or_eq_false_iff, Bool.and_eq_false_iff] at hinner
  have hhead : (cs ++ tail).head? = cs.head? := by
    cases cs with
    | nil => exact absurd rfl hne
    | cons d ds => rfl
  rw [hhead]
  simpa [isSpaceOrBreak, isSpace] using hinner.1.2

theorem plain_space (f : Folded) (p : Position) (cs : List Char) :
    plain inFlow indent f p (' ' :: cs) =
      plain inFlow indent (f.addSpace ' ') (p.advance 1) cs := by
  have hspace : isSpace ' ' = true := rfl
  rw [plain_cons (by decide), if_pos hspace, if_neg (by simp)]

/-- A plain scalar goes on with each of its characters. -/
theorem plain_append {text : List Char} (tail : List Char) (h : IsPlain inFlow text) :
    ∀ {f : Folded} {p : Position}, PlainSoFar indent f p (text ++ tail) →
      (text = [] → f.gap = .none) → text.getLast? ≠ some ' ' →
      plain inFlow indent f p (text ++ tail) =
        plain inFlow indent ⟨text.reverse ++ f.close, .none⟩ (p.advance text.length) tail := by
  induction text with
  | nil =>
      intro f p _ hnil _
      have hf : f = ⟨f.close, .none⟩ := by
        obtain ⟨reversed, gap⟩ := f
        obtain rfl : gap = .none := hnil rfl
        rfl
      rw [List.nil_append, List.reverse_nil, List.nil_append, ← hf]
      rfl
  | cons c cs ih =>
      intro f p hsofar _ hlast
      have hlast' : cs.getLast? ≠ some ' ' := by
        cases cs with
        | nil => simp
        | cons d ds => simpa using hlast
      rw [List.cons_append]
      by_cases hspace : c = ' '
      · subst hspace
        have hne : cs ≠ [] := by
          rintro rfl
          exact hlast rfl
        rw [plain_space, ih h.tail (hsofar.space (h.head?_ne_hash hne tail))
          (fun he => absurd he hne) hlast', hsofar.close_space, Position.advance_advance]
        simp [Nat.add_comm]
      · rw [plain_char tail h hspace hsofar, ih h.tail hsofar.char (fun _ => rfl) hlast',
          Position.advance_advance]
        simp [Folded.addChar, Folded.close, Nat.add_comm]

theorem PlainSoFar.empty {p : Position} {cs : List Char} (h : indent ≤ p.column + 1) :
    PlainSoFar indent .empty p cs := .inl ⟨rfl, h⟩

/-- A plain scalar in front of its end. -/
theorem plain_upTo {text tail : List Char} {p : Position} (h : IsPlain inFlow text)
    (hlast : text.getLast? ≠ some ' ') (hindent : indent ≤ p.column + 1) :
    plain inFlow indent .empty p (text ++ tail) =
      plain inFlow indent ⟨text.reverse, .none⟩ (p.advance text.length) tail := by
  rw [plain_append tail h (.empty hindent) (fun _ => rfl) hlast]
  simp [Folded.empty, Folded.close]

/-- A colon ends a plain scalar. -/
theorem plain_colon {text tail : List Char} {p : Position} (h : IsPlain inFlow text)
    (hlast : text.getLast? ≠ some ' ') (hindent : indent ≤ p.column + 1)
    (hgap : atGap tail = true) :
    plain inFlow indent .empty p (text ++ ':' :: tail) =
      .ok (String.ofList text, false, ⟨p.advance text.length, ':' :: tail⟩) := by
  have hstray : isStrayColon inFlow ':' tail = false := by
    cases tail with
    | nil => simp [isStrayColon]
    | cons c cs =>
        have hc : isFlowIndicator c = false ∧ c ≠ '?' := by
          simp only [atGap, isSpaceOrBreak, isSpace, isBreak, Bool.or_eq_true, beq_iff_eq] at hgap
          rcases hgap with (rfl | rfl) | ((((rfl | rfl) | rfl) | rfl) | rfl) <;> decide
        simp [isStrayColon, hc]
  rw [plain_upTo h hlast hindent, plain_cons (by decide)]
  simp [isSpace, isBreak, hstray, endsPlain, hgap, endPlain, Folded.text, Folded.onNewLine]

/-- What separates the elements of a flow collection ends a plain scalar in one. -/
theorem plain_flowIndicator {text tail : List Char} {p : Position} {c : Char}
    (h : IsPlain true text) (hlast : text.getLast? ≠ some ' ') (hindent : indent ≤ p.column + 1)
    (hc : isFlowIndicator c = true) :
    plain true indent .empty p (text ++ c :: tail) =
      .ok (String.ofList text, false, ⟨p.advance text.length, c :: tail⟩) := by
  rw [plain_upTo h hlast hindent]
  simp only [isFlowIndicator, Bool.or_eq_true, beq_iff_eq] at hc
  rcases hc with (((rfl | rfl) | rfl) | rfl) | rfl <;>
    (rw [plain_cons (by decide)]
     simp [isSpace, isBreak, isStrayColon, endsPlain, isFlowIndicator, endPlain, Folded.text,
       Folded.onNewLine])

theorem plain_margin {r : List Char} {rest : List Char} (n : Nat) (hopens : Lexer.Opens rest) :
    ∀ {p : Position}, p.column + n < indent →
      plain false indent ⟨r, .breaks (some '\n') []⟩ p (List.replicate n ' ' ++ rest) =
        .ok (String.ofList r.reverse, true, ⟨p.advance n, rest⟩) := by
  induction n with
  | zero =>
      intro p hp
      cases rest with
      | nil => rfl
      | cons c cs =>
          obtain ⟨hc, -⟩ := hopens.1 c rfl
          rw [isSpaceOrBreak, Bool.or_eq_false_iff] at hc
          rw [List.replicate_zero, List.nil_append, plain_cons (ne_return_of_not_isBreak hc.2)]
          have hlt : p.column < indent := by omega
          simp [hc, hlt, endPlain, Folded.text, Folded.onNewLine, Position.advance_zero]
  | succ n ih =>
      intro p hp
      have hp' : (p.advance 1).column + n < indent := by
        simp only [Position.advance]
        omega
      rw [List.replicate_succ, List.cons_append, plain_cons (by decide)]
      simp only [isSpace, Folded.addSpace, beq_self_eq_true, Bool.true_or, if_true]
      rw [if_neg (by simp), ih hp', Position.advance_advance, Nat.add_comm]

/-- A new line to the left of a plain scalar ends it. The gap belongs to what was read. -/
theorem plain_newline {text rest : List Char} {p : Position} {n : Nat} (h : IsPlain false text)
    (hlast : text.getLast? ≠ some ' ') (hindent : indent ≤ p.column + 1) (hn : n < indent)
    (hopens : Lexer.Opens rest) :
    plain false indent .empty p (text ++ '\n' :: (List.replicate n ' ' ++ rest)) =
      .ok (String.ofList text, true,
        ⟨((p.advance text.length).newline 1).advance n, rest⟩) := by
  rw [plain_upTo h hlast hindent, plain_cons (by decide)]
  have hp : ((p.advance text.length).newline 1).column + n < indent := by
    simp only [Position.newline]
    omega
  simp [isSpace, isBreak, readBreak, Folded.addBreak, plain_margin n hopens hp]

end Plain

/-! ## Quoted scalars -/

/-- A quoted scalar has no line break in the gap behind what was read of it so far. -/
def Folded.InLine (f : Folded) : Prop := f.gap = .none ∨ ∃ sp, f.gap = .spaces sp

namespace Folded.InLine

variable {f : Folded}

theorem empty : Folded.empty.InLine := .inl rfl

theorem addSpace (h : f.InLine) (c : Char) : (f.addSpace c).InLine := by
  rcases h with hgap | ⟨sp, hgap⟩ <;> exact .inr ⟨_, by rw [Folded.addSpace, hgap]⟩

theorem close_addSpace (h : f.InLine) (c : Char) : (f.addSpace c).close = c :: f.close := by
  rcases h with hgap | ⟨sp, hgap⟩ <;> simp [Folded.addSpace, Folded.close, hgap]

theorem addChar (f : Folded) (c : Char) : (f.addChar c).InLine := .inl rfl

end Folded.InLine

theorem Folded.close_addChar (f : Folded) (c : Char) : (f.addChar c).close = c :: f.close := rfl

/-- A character between quotes that is no line break. A space belongs to the gap. -/
def Folded.add (f : Folded) (c : Char) : Folded := if isSpace c then f.addSpace c else f.addChar c

theorem Folded.InLine.add {f : Folded} (h : f.InLine) (c : Char) :
    (f.add c).InLine ∧ (f.add c).close = c :: f.close := by
  rw [Folded.add]
  split
  · exact ⟨h.addSpace c, h.close_addSpace c⟩
  · exact ⟨.addChar f c, f.close_addChar c⟩

theorem doubledQuotes_cons (c : Char) (cs : List Char) :
    doubledQuotes (c :: cs) = doubledQuotes [c] ++ doubledQuotes cs := by
  simp [doubledQuotes]

/-- Between single quotes only quotes do not stand for themselves. -/
theorem singleQuoted_char {c : Char} {f : Folded} {p : Position} (h : isBreak c = false)
    (hp : 0 < p.column) (cs : List Char) :
    singleQuoted f p (doubledQuotes [c] ++ cs) =
      singleQuoted (f.add c) (p.advance (doubledQuotes [c]).length) cs := by
  by_cases hquote : c = '\''
  · subst hquote
    have htext : doubledQuotes ['\''] = ['\'', '\''] := rfl
    rw [htext, List.cons_append, List.singleton_append, singleQuoted]
    rfl
  · have htext : doubledQuotes [c] = [c] := by simp [doubledQuotes, hquote]
    rw [htext, List.singleton_append, singleQuoted.eq_5, Folded.add]
    · split
      · rfl
      · rw [if_neg (by simp [h]), if_neg (by simp; omega)]
        rfl
    · exact fun _ hr => absurd hr (ne_return_of_not_isBreak h)
    · exact fun _ hr => absurd hr hquote
    · exact hquote

/-- A single quote ends what is between such quotes. -/
theorem singleQuoted_quote {tail : List Char} (htail : tail.head? ≠ some '\'') (f : Folded)
    (p : Position) :
    singleQuoted f p ('\'' :: tail) = .ok (f.closedText, ⟨p.advance 1, tail⟩) := by
  rw [singleQuoted]
  rintro cs rfl
  exact htail rfl

theorem singleQuoted_append {text tail : List Char} (h : ∀ c ∈ text, isBreak c = false)
    (htail : tail.head? ≠ some '\'') :
    ∀ (f : Folded) (p : Position), f.InLine → 0 < p.column →
      singleQuoted f p (doubledQuotes text ++ '\'' :: tail) =
        .ok (String.ofList (f.close.reverse ++ text),
          ⟨p.advance ((doubledQuotes text).length + 1), tail⟩) := by
  induction text with
  | nil =>
      intro f p _ _
      rw [List.append_nil, ← Folded.closedText]
      exact singleQuoted_quote htail f p
  | cons c cs ih =>
      intro f p hf hp
      have hp' : 0 < (p.advance (doubledQuotes [c]).length).column :=
        Nat.lt_of_lt_of_le hp (Nat.le_add_right ..)
      obtain ⟨hadd, hclose⟩ := hf.add c
      rw [doubledQuotes_cons, List.append_assoc,
        singleQuoted_char (h c (List.mem_cons_self ..)) hp,
        ih (fun d hd => h d (List.mem_cons_of_mem _ hd)) _ _ hadd hp', hclose,
        Position.advance_advance, List.length_append]
      simp [Nat.add_assoc]

/-! ## Escapes -/

/-- The text `written` stands for the character `c` between double quotes. -/
def Escapes (written : List Char) (c : Char) : Prop :=
  ∀ (f : Folded) (p : Position) (tail : List Char), f.InLine → 0 < p.column →
    ∃ f' : Folded, f'.InLine ∧ f'.close = c :: f.close ∧
      doubleQuoted .none f p (written ++ tail) =
        doubleQuoted .none f' (p.advance written.length) tail

/-- A character that is no carriage return, behind what it continues. -/
theorem doubleQuoted_cons {e : Escape} {f : Folded} {p : Position} {c : Char} {cs : List Char}
    (h : c ≠ '\r') :
    doubleQuoted e f p (c :: cs) =
      match e with
      | .none =>
        if isSpace c then doubleQuoted .none (f.addSpace c) (p.advance 1) cs
        else if isBreak c then doubleQuoted .none (f.addBreak (readBreak c)) (p.newline 1) cs
        else if p.column == 0 && atMarker (c :: cs) then .error .unterminatedScalar
        else if c == '"' then .ok (f.closedText, ⟨p.advance 1, cs⟩)
        else if c == '\\' then doubleQuoted .opened f (p.advance 1) cs
        else doubleQuoted .none (f.addChar c) (p.advance 1) cs
      | .opened =>
        if isBreak c then doubleQuoted .none f.addEscapedBreak (p.newline 1) cs
        else match simpleEscape? c, escapeLength? c with
          | some d, _ => doubleQuoted .none (f.addChar d) (p.advance 1) cs
          | none, some (n + 1) => doubleQuoted (.number n 0) f (p.advance 1) cs
          | none, _ => .error .badEscape
      | .number missing value =>
        match hexDigit? c with
        | none => .error .badEscape
        | some d =>
          match missing, charAt? (value * 16 + d) with
          | n + 1, _ => doubleQuoted (.number n (value * 16 + d)) f (p.advance 1) cs
          | 0, some x => doubleQuoted .none (f.addChar x) (p.advance 1) cs
          | 0, none => .error .badEscape := by
  cases e with
  | none => exact doubleQuoted.eq_5 _ _ _ _ fun _ hc => absurd hc h
  | opened => exact doubleQuoted.eq_6 _ _ _ _ fun _ hc => absurd hc h
  | number missing value => exact doubleQuoted.eq_7 _ _ _ _ _ _ fun _ hc => absurd hc h

theorem escapes_self {c : Char} (hbreak : isBreak c = false) (hquote : c ≠ '"')
    (hslash : c ≠ '\\') :
    Escapes [c] c := by
  intro f p tail hf hp
  have hr := ne_return_of_not_isBreak hbreak
  rw [List.singleton_append, doubleQuoted_cons hr]
  cases hspace : isSpace c with
  | true => exact ⟨f.addSpace c, hf.addSpace c, hf.close_addSpace c, by simp⟩
  | false =>
      have hcolumn : (p.column == 0) = false := by simp; omega
      exact ⟨f.addChar c, .addChar .., f.close_addChar c, by simp [hbreak, hcolumn, hquote, hslash]⟩

/-- A backslash opens an escape. -/
theorem doubleQuoted_backslash {f : Folded} {p : Position} {cs : List Char} (hp : 0 < p.column) :
    doubleQuoted .none f p ('\\' :: cs) = doubleQuoted .opened f (p.advance 1) cs := by
  have hcolumn : (p.column == 0) = false := by simp; omega
  rw [doubleQuoted_cons (by decide)]
  simp [isSpace, isBreak, hcolumn]

theorem escapes_letter {l c : Char} (h : simpleEscape? l = some c) (hbreak : isBreak l = false) :
    Escapes ['\\', l] c := by
  intro f p tail _ hp
  refine ⟨f.addChar c, .addChar .., f.close_addChar c, ?_⟩
  have hr := ne_return_of_not_isBreak hbreak
  rw [List.cons_append, List.singleton_append, doubleQuoted_backslash hp,
    doubleQuoted_cons hr]
  simp [hbreak, h, Position.advance_advance]

/-- The value of hexadecimal digits, behind `start`. -/
def hexValue? (start : Nat) (ds : List Char) : Option Nat :=
  ds.foldlM (fun n d => (hexDigit? d).map (n * 16 + ·)) start

theorem doubleQuoted_number (f : Folded) {ds : List Char} (tail : List Char) {c : Char}
    (hne : ds ≠ []) :
    ∀ {start : Nat} {p : Position}, (hexValue? start ds).bind charAt? = some c →
      doubleQuoted (.number (ds.length - 1) start) f p (ds ++ tail) =
        doubleQuoted .none (f.addChar c) (p.advance ds.length) tail := by
  induction ds with
  | nil => exact absurd rfl hne
  | cons d ds ih =>
      intro start p h
      cases hd : hexDigit? d with
      | none => simp [hexValue?, hd] at h
      | some v =>
          have hr : d ≠ '\r' := by
            rintro rfl
            have hnone : hexDigit? '\r' = none := by decide
            exact absurd (hnone.symm.trans hd) (by simp)
          rw [List.cons_append, doubleQuoted_cons hr]
          cases ds with
          | nil =>
              have hc : charAt? (start * 16 + v) = some c := by simpa [hexValue?, hd] using h
              simp [hd, hc]
          | cons e es =>
              have hrest : (hexValue? (start * 16 + v) (e :: es)).bind charAt? = some c := by
                simpa [hexValue?, hd] using h
              have hnext := ih (by simp) (p := p.advance 1) hrest
              rw [Position.advance_advance, Nat.add_comm 1] at hnext
              simp only [hd]
              exact hnext

theorem escapes_number {l c : Char} {n : Nat} {ds : List Char} (hl : escapeLength? l = some n)
    (hlength : ds.length = n) (hn : n ≠ 0) (h : (hexValue? 0 ds).bind charAt? = some c) :
    Escapes ('\\' :: l :: ds) c := by
  intro f p tail _ hp
  refine ⟨f.addChar c, .addChar .., f.close_addChar c, ?_⟩
  obtain ⟨hbreak, hletter⟩ : isBreak l = false ∧ simpleEscape? l = none := by
    unfold escapeLength? at hl
    split at hl
    · decide
    · decide
    · decide
    · cases hl
  have hne : ds ≠ [] := by
    rintro rfl
    exact hn hlength.symm
  obtain ⟨n, rfl⟩ := Nat.exists_eq_succ_of_ne_zero hn
  have hr := ne_return_of_not_isBreak hbreak
  have hnumber := doubleQuoted_number f tail (p := (p.advance 1).advance 1) hne h
  have hadvance : ((p.advance 1).advance 1).advance ds.length =
      p.advance ('\\' :: l :: ds).length := by
    rw [Position.advance_advance, Position.advance_advance, List.length_cons, List.length_cons]
    congr 1
    omega
  have hmissing : ds.length - 1 = n := by omega
  rw [hmissing, hadvance] at hnumber
  rw [List.cons_append, List.cons_append, doubleQuoted_backslash hp,
    doubleQuoted_cons hr]
  simp only [hbreak, hletter, hl, Nat.succ_eq_add_one]
  exact hnumber

/-- A text of which each character is escaped stands for the text. -/
theorem doubleQuoted_flatMap {write : Char → List Char} {text : List Char} (tail : List Char)
    (h : ∀ c ∈ text, Escapes (write c) c) :
    ∀ (f : Folded) (p : Position), f.InLine → 0 < p.column →
      doubleQuoted .none f p (text.flatMap write ++ '"' :: tail) =
        .ok (String.ofList (f.close.reverse ++ text),
          ⟨p.advance ((text.flatMap write).length + 1), tail⟩) := by
  induction text with
  | nil =>
      intro f p _ hp
      have hcolumn : (p.column == 0) = false := by simp; omega
      rw [List.flatMap_nil, List.nil_append, doubleQuoted_cons (by decide)]
      simp [isSpace, isBreak, hcolumn, Folded.closedText]
  | cons c cs ih =>
      intro f p hf hp
      have hp' : ∀ n, 0 < (p.advance n).column := by
        intro n
        simp only [Position.advance]
        omega
      obtain ⟨f', hf', hclose, hread⟩ := h c (List.mem_cons_self ..) f p
        (cs.flatMap write ++ '"' :: tail) hf hp
      rw [List.flatMap_cons, List.append_assoc, hread,
        ih (fun d hd => h d (List.mem_cons_of_mem _ hd)) f' _ hf' (hp' _), hclose,
        Position.advance_advance]
      simp [Nat.add_assoc]

/-! ## What the printer escapes -/

theorem charAt?_toNat (c : Char) : charAt? c.toNat = some c := by
  have h : c.toNat.isValidChar := c.valid
  rw [charAt?, if_pos h, Char.ofNat_toNat]

/-- Digits in upper case. -/
theorem hexDigit?_upper {d : Nat} (h : d < 16) :
    hexDigit? (Char.ofNat (if d < 10 then 48 + d else 55 + d)) = some d := by
  have hall : ∀ d < 16, hexDigit? (Char.ofNat (if d < 10 then 48 + d else 55 + d)) = some d := by
    decide
  exact hall d h

theorem hexDigits_succ (k n : Nat) :
    hexDigits (k + 1) n =
      Char.ofNat (if n / 16 ^ k % 16 < 10 then 48 + n / 16 ^ k % 16 else 55 + n / 16 ^ k % 16) ::
        hexDigits k n := by
  simp [hexDigits, List.range_succ]

theorem length_hexDigits (k n : Nat) : (hexDigits k n).length = k := by simp [hexDigits]

theorem hexValue?_hexDigits (k n : Nat) :
    ∀ start, hexValue? start (hexDigits k n) = some (start * 16 ^ k + n % 16 ^ k) := by
  induction k with
  | zero => simp [hexDigits, hexValue?, Nat.mod_one]
  | succ k ih =>
      intro start
      have hd := hexDigit?_upper (d := n / 16 ^ k % 16) (Nat.mod_lt _ (by omega))
      have hnext := ih (start * 16 + n / 16 ^ k % 16)
      have hsplit : n % 16 ^ (k + 1) = 16 ^ k * (n / 16 ^ k % 16) + n % 16 ^ k := by
        rw [Nat.pow_succ, Nat.mod_mul, Nat.add_comm]
      have hvalue : (start * 16 + n / 16 ^ k % 16) * 16 ^ k + n % 16 ^ k =
          start * 16 ^ (k + 1) + n % 16 ^ (k + 1) := by
        rw [hsplit, Nat.pow_succ, Nat.add_mul, Nat.mul_assoc, Nat.mul_comm 16,
          Nat.mul_comm (n / 16 ^ k % 16), Nat.add_assoc]
      rw [hexDigits_succ, ← hvalue]
      simpa [hexValue?, hd] using hnext

theorem eq_ofNat {c : Char} {n : Nat} (h : c.toNat = n) : c = Char.ofNat n := by
  rw [← h, Char.ofNat_toNat]

theorem simpleEscape?_escapeLetter? {c l : Char} (h : escapeLetter? c = some l) :
    simpleEscape? l = some c ∧ isBreak l = false := by
  unfold escapeLetter? at h
  split at h
  case h_15 => cases h
  all_goals
    rename_i hn
    cases h
    rw [eq_ofNat hn]
    decide

/-- Between double quotes the printer escapes what it has to. -/
theorem escapes_escaped (c : Char) : Escapes (escaped c) c := by
  rw [escaped]
  split
  · rename_i h
    simp only [Bool.and_eq_true, Bool.not_eq_true', bne_iff_ne] at h
    exact escapes_self h.1.1.2 h.1.2 h.2
  · rename_i h
    cases hletter : escapeLetter? c with
    | some l =>
        obtain ⟨hsimple, hbreak⟩ := simpleEscape?_escapeLetter? hletter
        exact escapes_letter hsimple hbreak
    | none =>
        have hsmall : c.toNat < 16 ^ 4 := by
          refine Nat.lt_of_not_le fun hle => h ?_
          have hne : ∀ d : Char, d.toNat < 16 ^ 4 → c ≠ d := by
            rintro d hd rfl
            omega
          have hprintable : isPrintable c = true := by
            simp only [isPrintable, Bool.or_eq_true, Bool.and_eq_true, decide_eq_true_eq,
              bne_iff_ne]
            omega
          have hbreak : isBreak c = false := by
            simp [isBreak, hne]
          simp [hprintable, hbreak, hne]
        dsimp only
        split
        · exact escapes_number rfl (length_hexDigits ..) (by decide) (by
            rw [hexValue?_hexDigits, Nat.mod_eq_of_lt (by omega)]
            simp [charAt?_toNat])
        · exact escapes_number rfl (length_hexDigits ..) (by decide) (by
            rw [hexValue?_hexDigits, Nat.mod_eq_of_lt hsmall]
            simp [charAt?_toNat])

end WorkItems.Yaml
