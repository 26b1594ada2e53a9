import WorkItems.Proofs.Yaml.Scalars
/-!
# Literal block scalars

A literal scalar is read line by line. `BlockText` keeps apart what the chomping at the end may
take away: the break behind the last line with text, and the empty lines below it. Put together
again (`BlockText.whole`) they are what was read so far, and the chomping that the printer asks for
takes away exactly what it added.
-/

namespace WorkItems.Yaml

/-- The lines of a text, with margins in front of the empty ones and of those with text. -/
def laid (blank full : Nat) (atStart : Bool) : List Char → List Char
  | [] => []
  | c :: cs =>
    if isBreak c then
      (if atStart then List.replicate blank ' ' else []) ++ c :: laid blank full true cs
    else (if atStart then List.replicate full ' ' else []) ++ c :: laid blank full false cs

/-- All that was read so far, the last character first. -/
def BlockText.whole (b : BlockText) : List Char := b.emptyLines ++ b.lineBreak ++ b.reversed

/-- Each line break of a text is one that is read as it is. -/
def KeepsBreaks (cs : List Char) : Prop := ∀ c ∈ cs, isBreak c = true → readBreak c = c

theorem KeepsBreaks.tail {c : Char} {cs : List Char} (h : KeepsBreaks (c :: cs)) :
    KeepsBreaks cs := fun d hd => h d (List.mem_cons_of_mem _ hd)

theorem ne_return_of_readBreak {c : Char} (h : readBreak c = c) : c ≠ '\r' := by
  rintro rfl
  exact absurd h (by decide)

section Lines

variable {r : BlockRules} {full : Nat}

/-- The margin of a line is passed over. -/
theorem blockLines_margin {indent : Option Nat} {deepest : Nat} {b : BlockText} (tail : List Char)
    (n : Nat) : ∀ {p : Position}, (∀ i, indent = some i → p.column + n ≤ i) →
      blockLines r indent deepest false b p (List.replicate n ' ' ++ tail) =
        blockLines r indent deepest false b (p.advance n) tail := by
  induction n with
  | zero => exact fun _ => rfl
  | succ n ih =>
      intro p hp
      have hmargin : (indent.all fun i => decide (p.column < i)) = true := by
        cases indent with
        | none => rfl
        | some i =>
            have hi := hp i rfl
            simp only [Option.all_some, decide_eq_true_eq]
            omega
      have hp' : ∀ i, indent = some i → (p.advance 1).column + n ≤ i := by
        intro i hi
        have := hp i hi
        simp only [Position.advance]
        omega
      rw [List.replicate_succ, List.cons_append, blockLines.eq_3 _ _ _ _ _ _ _ _ (by simp)]
      simp only [hmargin, Bool.false_eq_true, if_false]
      rw [if_pos (by simp), ih hp', Position.advance_advance, Nat.add_comm]

/-- The first character of a line with text. -/
theorem blockLines_startLine {deepest : Nat} {b : BlockText} {p : Position} {c : Char}
    {cs : List Char} (hc : isBreak c = false) (hp : p.column = full) :
    blockLines r (some full) deepest false b p (c :: cs) =
      blockLines r (some full) deepest true ((b.startLine r.folded c).addChar c) (p.advance 1)
        cs := by
  rw [blockLines.eq_3 _ _ _ _ _ _ _ _ fun _ hr => absurd hr (ne_return_of_not_isBreak hc)]
  simp [hp, hc, BlockRules.settle]

theorem blockLines_inLine {indent : Option Nat} {deepest : Nat} {b : BlockText} {p : Position}
    {c : Char} {cs : List Char} (hc : isBreak c = false) :
    blockLines r indent deepest true b p (c :: cs) =
      blockLines r indent deepest true (b.addChar c) (p.advance 1) cs := by
  rw [blockLines.eq_3 _ _ _ _ _ _ _ _ fun _ hr => absurd hr (ne_return_of_not_isBreak hc)]
  simp [hc]

theorem blockLines_endLine {indent : Option Nat} {deepest : Nat} {b : BlockText} {p : Position}
    {c : Char} {cs : List Char} (hc : isBreak c = true) (hkept : readBreak c = c) :
    blockLines r indent deepest true b p (c :: cs) =
      blockLines r indent deepest false (b.endLine c) (p.newline 1) cs := by
  rw [blockLines.eq_3 _ _ _ _ _ _ _ _ fun _ hr => absurd hr (ne_return_of_readBreak hkept)]
  simp [hc, hkept]

theorem blockLines_emptyLine {indent : Option Nat} {deepest : Nat} {b : BlockText} {p : Position}
    {c : Char} {cs : List Char} (hc : isBreak c = true) (hkept : readBreak c = c) :
    blockLines r indent deepest false b p (c :: cs) =
      blockLines r indent (max deepest p.column) false (b.addEmptyLine c) (p.newline 1) cs := by
  have hblank : c ≠ ' ' ∧ c ≠ '\t' := by
    constructor <;> rintro rfl <;> exact absurd hc (by decide)
  rw [blockLines.eq_3 _ _ _ _ _ _ _ _ fun _ hr => absurd hr (ne_return_of_readBreak hkept)]
  simp [hc, hkept, hblank]

/-- A line to the left of the text ends a block scalar. -/
theorem blockLines_end {deepest : Nat} {b : BlockText} {p : Position} {rest : List Char} {n : Nat}
    (hp : p.column = 0) (hn : n < full) (hopens : Lexer.Opens rest) :
    blockLines r (some full) deepest false b p (List.replicate n ' ' ++ rest) =
      .ok (b.text r.chomp, ⟨p.advance n, rest⟩) := by
  rw [blockLines_margin rest n (by simp; omega)]
  cases rest with
  | nil => rw [blockLines]
  | cons c cs =>
      obtain ⟨hc, -⟩ := hopens.1 c rfl
      simp only [isSpaceOrBreak, isSpace, Bool.or_eq_false_iff, beq_eq_false_iff_ne] at hc
      have hcolumn : (p.advance n).column ≠ full := by
        simp only [Position.advance]
        omega
      rw [blockLines.eq_3 _ _ _ _ _ _ _ _ fun _ hr =>
        absurd hr (ne_return_of_not_isBreak hc.2)]
      simp [hc, BlockRules.settle, hcolumn]

/-- Where the reader of a literal scalar is: inside of a line, or at the start of one. -/
structure AtLine (atStart : Bool) (soFar : List Char) (b : BlockText) (p : Position) : Prop where
  whole : b.whole = soFar
  start : atStart = true → p.column = 0
  inside : atStart = false → b.reversed = soFar

/-- Inside of a line nothing is kept apart. -/
theorem AtLine.breaks_eq_nil {b : BlockText} {p : Position} {soFar : List Char}
    (h : AtLine false soFar b p) : b.emptyLines = [] ∧ b.lineBreak = [] := by
  have hlength := congrArg List.length h.whole
  rw [BlockText.whole, h.inside rfl, List.length_append] at hlength
  exact List.append_eq_nil_iff.1 (List.length_eq_zero_iff.1 (by omega))

theorem AtLine.addChar {b : BlockText} {p : Position} {soFar : List Char}
    (h : AtLine false soFar b p) (p' : Position) (c : Char) :
    AtLine false (c :: soFar) (b.addChar c) p' where
  whole := by
    obtain ⟨hempty, hbreak⟩ := h.breaks_eq_nil
    rw [BlockText.whole, BlockText.addChar, hempty, hbreak, h.inside rfl]
    rfl
  start := by simp
  inside _ := by rw [BlockText.addChar, h.inside rfl]

theorem AtLine.startLine {b : BlockText} {p : Position} {soFar : List Char}
    (h : AtLine true soFar b p) (p' : Position) (c : Char) :
    AtLine false soFar (b.startLine false c) p' where
  whole := by simp [BlockText.whole, BlockText.startLine, ← h.whole]
  start := by simp
  inside _ := by simp [BlockText.startLine, ← h.whole, BlockText.whole]

theorem AtLine.endLine {b : BlockText} {p : Position} {soFar : List Char}
    (h : AtLine false soFar b p) (c : Char) :
    AtLine true (c :: soFar) (b.endLine c) (p.newline 1) where
  whole := by
    rw [BlockText.whole, BlockText.endLine, h.breaks_eq_nil.1, h.inside rfl]
    rfl
  start _ := rfl
  inside := by simp

theorem AtLine.emptyLine {b : BlockText} {p : Position} {soFar : List Char}
    (h : AtLine true soFar b p) (p' : Position) (c : Char) :
    AtLine true (c :: soFar) (b.addEmptyLine c) (p'.newline 1) :=
  ⟨by simp [BlockText.whole, BlockText.addEmptyLine, ← h.whole], fun _ => rfl, by simp⟩

/-- Whether a line starts behind a text, if lines end with the characters of this class. -/
def startsBehind (ends : Char → Bool) (atStart : Bool) (cs : List Char) : Bool :=
  match cs.getLast? with
  | some c => ends c
  | none => atStart

theorem startsBehind_cons (ends : Char → Bool) (atStart : Bool) (c : Char) (cs : List Char) :
    startsBehind ends atStart (c :: cs) = startsBehind ends (ends c) cs := by
  cases cs with
  | nil => rfl
  | cons d ds => simp [startsBehind, List.getLast?_cons]

/-- One character of a literal scalar, with the margin in front of it. -/
theorem blockLines_step {blank : Nat} (hblank : blank ≤ full) (hfolded : r.folded = false)
    {c : Char} (hc : isBreak c = true → readBreak c = c) (cs tail : List Char) {atStart : Bool}
    {soFar : List Char} (deepest : Nat) {b : BlockText} {p : Position}
    (h : AtLine atStart soFar b p) :
    ∃ deepest' b' p', AtLine (isBreak c) (c :: soFar) b' p' ∧
      blockLines r (some full) deepest (!atStart) b p (laid blank full atStart (c :: cs) ++ tail) =
        blockLines r (some full) deepest' (!isBreak c) b' p'
          (laid blank full (isBreak c) cs ++ tail) := by
  cases hbreak : isBreak c with
  | true =>
      have hkept := hc hbreak
      cases atStart with
      | true =>
          have hp := h.start rfl
          refine ⟨max deepest (p.advance blank).column, _, _,
            h.emptyLine (p.advance blank) c, ?_⟩
          rw [laid, hbreak, if_pos rfl, if_pos rfl, List.append_assoc, List.cons_append]
          exact (blockLines_margin _ blank (by simp; omega)).trans
            (blockLines_emptyLine hbreak hkept)
      | false =>
          refine ⟨deepest, _, _, h.endLine c, ?_⟩
          rw [laid, hbreak, if_pos rfl, if_neg (by simp), List.nil_append, List.cons_append]
          exact blockLines_endLine hbreak hkept
  | false =>
      cases atStart with
      | true =>
          have hp := h.start rfl
          have hfull : (p.advance full).column = full := by simp [Position.advance, hp]
          refine ⟨deepest, _, _,
            (h.startLine p c).addChar ((p.advance full).advance 1) c, ?_⟩
          rw [laid, hbreak, if_neg (by simp), if_pos rfl, List.append_assoc, List.cons_append]
          refine (blockLines_margin _ full (by simp; omega)).trans ?_
          rw [blockLines_startLine hbreak hfull, hfolded]
          rfl
      | false =>
          refine ⟨deepest, _, _, h.addChar (p.advance 1) c, ?_⟩
          rw [laid, hbreak, if_neg (by simp), if_neg (by simp), List.nil_append, List.cons_append]
          exact blockLines_inLine hbreak

/-- The lines of a literal scalar are read as they are. -/
theorem blockLines_laid {blank : Nat} (hblank : blank ≤ full) (hfolded : r.folded = false)
    {cs : List Char} (hcs : KeepsBreaks cs) (tail : List Char) :
    ∀ {atStart : Bool} {soFar : List Char} (deepest : Nat) {b : BlockText} {p : Position},
      AtLine atStart soFar b p →
      ∃ deepest' b' p', AtLine (startsBehind isBreak atStart cs) (cs.reverse ++ soFar) b' p' ∧
        blockLines r (some full) deepest (!atStart) b p (laid blank full atStart cs ++ tail) =
          blockLines r (some full) deepest' (!startsBehind isBreak atStart cs) b' p' tail := by
  induction cs with
  | nil => exact fun _ _ _ h => ⟨_, _, _, h, rfl⟩
  | cons c cs ih =>
      intro atStart soFar deepest b p h
      obtain ⟨deepest₁, b₁, p₁, h₁, hread₁⟩ :=
        blockLines_step hblank hfolded (hcs c (List.mem_cons_self ..)) cs tail deepest h
      obtain ⟨deepest₂, b₂, p₂, h₂, hread₂⟩ := ih hcs.tail deepest₁ h₁
      rw [← startsBehind_cons isBreak atStart] at h₂ hread₂
      exact ⟨deepest₂, b₂, p₂, by simpa using h₂, hread₁.trans hread₂⟩

/-- The first line with text sets the indentation, if it does not start blank. -/
theorem blockLines_none {blank : Nat} {b : BlockText} {p : Position} {c : Char}
    {cs tail : List Char} (hbreak : isBreak c = false) (hspace : isSpace c = false)
    (hp : p.column = 0) (hleast : r.least ≤ full) (hfull : 0 < full) :
    blockLines r none 0 false b p (laid blank full true (c :: cs) ++ tail) =
      blockLines r (some full) 0 false b p (laid blank full true (c :: cs) ++ tail) := by
  have hcolumn : (p.advance full).column = full := by simp [Position.advance, hp]
  have hsettle : r.settle none full = full := by
    simp only [BlockRules.settle, Option.getD_none]
    omega
  simp only [isSpace, Bool.or_eq_false_iff, beq_eq_false_iff_ne] at hspace
  rw [laid, hbreak, if_neg (by simp), if_pos rfl, List.append_assoc, List.cons_append,
    blockLines_margin _ full (by simp), blockLines_margin _ full (by simp; omega),
    blockLines_startLine hbreak hcolumn,
    blockLines.eq_3 _ _ _ _ _ _ _ _ fun _ hr => absurd hr (ne_return_of_not_isBreak hbreak)]
  simp [hsettle, hcolumn, hspace, hbreak]

theorem laid_append {blank : Nat} (cs ds : List Char) : ∀ atStart : Bool,
    laid blank full atStart (cs ++ ds) =
      laid blank full atStart cs ++ laid blank full (startsBehind isBreak atStart cs) ds := by
  induction cs with
  | nil => exact fun _ => rfl
  | cons c cs ih =>
      intro atStart
      rw [startsBehind_cons, List.cons_append, laid, laid]
      cases isBreak c <;> simp [ih]

end Lines

/-! ## The end of a text -/

/-- The line feed that ends the last line, if the text does not end with a line break itself. -/
def lineEnding (cs : List Char) : List Char := if cs.getLast?.any isBreak then [] else ['\n']

/-- The sign that asks for a chomping. -/
def signOf : Chomp → List Char
  | .strip => ['-']
  | .clip => []
  | .keep => ['+']

/-- With this chomping the lines of the text are read as the text. -/
def Reads (cs : List Char) (chomp : Chomp) : Prop :=
  ∀ (r : BlockRules) (blank full deepest : Nat) (p : Position) (tail : List Char),
    r.folded = false → blank ≤ full → p.column = 0 →
    ∃ deepest' b' p', p'.column = 0 ∧ b'.text chomp = String.ofList cs ∧
      blockLines r (some full) deepest false .empty p
          (laid blank full true cs ++ (lineEnding cs ++ tail)) =
        blockLines r (some full) deepest' false b' p' tail

theorem atLine_empty {p : Position} (h : p.column = 0) : AtLine true [] .empty p :=
  ⟨rfl, fun _ => h, by simp⟩

theorem startsBehind_append (atStart : Bool) (cs : List Char) (c : Char) :
    startsBehind isBreak atStart (cs ++ [c]) = isBreak c := by
  simp [startsBehind]

/-- A text that ends within a line gets a line feed, which is chomped. -/
theorem reads_strip {cs : List Char} {c : Char} (h : KeepsBreaks (cs ++ [c]))
    (hc : isBreak c = false) : Reads (cs ++ [c]) .strip := by
  intro r blank full deepest p tail hfolded hblank hp
  obtain ⟨deepest', b', p', hline, hread⟩ := blockLines_laid hblank hfolded h
    ('\n' :: tail) deepest (atLine_empty hp)
  have hending : lineEnding (cs ++ [c]) = ['\n'] := by simp [lineEnding, hc]
  rw [startsBehind_append, hc] at hline hread
  refine ⟨deepest', b'.endLine '\n', p'.newline 1, rfl, ?_, ?_⟩
  · simp [BlockText.text, BlockText.endLine, hline.inside rfl]
  · rw [hending, List.singleton_append]
    exact hread.trans (blockLines_endLine isBreak_newline rfl)

/-- The line break behind a last line with text is clipped to one. -/
theorem reads_clip {cs : List Char} {c b : Char} (h : KeepsBreaks (cs ++ [c] ++ [b]))
    (hc : isBreak c = false) (hb : isBreak b = true) : Reads (cs ++ [c] ++ [b]) .clip := by
  intro r blank full deepest p tail hfolded hblank hp
  have hcs : KeepsBreaks (cs ++ [c]) := fun d hd => h d (List.mem_append_left _ hd)
  obtain ⟨deepest', b', p', hline, hread⟩ := blockLines_laid hblank hfolded hcs
    (b :: tail) deepest (atLine_empty hp)
  have hending : lineEnding (cs ++ [c] ++ [b]) = [] := by simp [lineEnding, hb]
  have hlaid : laid blank full false [b] = [b] := by simp [laid, hb]
  rw [startsBehind_append, hc] at hline hread
  refine ⟨deepest', b'.endLine b, p'.newline 1, rfl, ?_, ?_⟩
  · simp [BlockText.text, BlockText.endLine, hline.inside rfl]
  · rw [hending, List.nil_append, laid_append, startsBehind_append, hc, hlaid, List.append_assoc]
    exact hread.trans (blockLines_endLine hb (h b (by simp) hb))

/-- Nothing is chomped from a text that ends with an empty line. -/
theorem reads_keep (cs : List Char) {b : Char} (h : KeepsBreaks (cs ++ [b]))
    (hb : isBreak b = true) : Reads (cs ++ [b]) .keep := by
  intro r blank full deepest p tail hfolded hblank hp
  obtain ⟨deepest', b', p', hline, hread⟩ := blockLines_laid hblank hfolded h tail
    deepest (atLine_empty hp)
  have hending : lineEnding (cs ++ [b]) = [] := by simp [lineEnding, hb]
  rw [startsBehind_append, hb] at hline hread
  refine ⟨deepest', b', p', hline.start rfl, ?_, ?_⟩
  · have hwhole := hline.whole
    rw [BlockText.whole, List.append_nil, List.append_assoc] at hwhole
    simp [BlockText.text, hwhole]
  · rw [hending, List.nil_append]
    exact hread

/-- The indicators behind the bar: a digit in front of a text that starts blank, and a sign. -/
theorem literalHeader_eq {cs : List Char} (h : KeepsBreaks cs) (hmem : '\n' ∈ cs) :
    ∃ chomp, Reads cs chomp ∧
      literalHeader cs =
        (if cs.head?.any fun c => c == ' ' || isBreak c then ['2'] else []) ++ signOf chomp := by
  have hmulti : isMultiline cs = true := List.any_eq_true.2 ⟨_, hmem, isBreak_newline⟩
  rcases hcs : cs.reverse with _ | ⟨a, _ | ⟨b, front⟩⟩
  · obtain rfl : cs = [] := by simpa using congrArg List.reverse hcs
    exact absurd hmem List.not_mem_nil
  · obtain rfl : cs = [a] := by simpa using congrArg List.reverse hcs
    obtain rfl : '\n' = a := by simpa using hmem
    exact ⟨.keep, reads_keep [] h isBreak_newline, by simp [literalHeader, hmulti, signOf]⟩
  · obtain rfl : cs = front.reverse ++ [b] ++ [a] := by simpa using congrArg List.reverse hcs
    cases ha : isBreak a with
    | true =>
        cases hb : isBreak b with
        | true => exact ⟨.keep, reads_keep _ h ha, by simp [literalHeader, ha, hb, signOf]⟩
        | false => exact ⟨.clip, reads_clip h hb ha, by simp [literalHeader, ha, hb, signOf]⟩
    | false => exact ⟨.strip, reads_strip h ha, by simp [literalHeader, ha, signOf]⟩

/-! ## A whole literal scalar -/

/-- The increment that a header gives, if it starts with the digit. -/
theorem blockHeader_written (chomp : Chomp) (blankStart : Bool) (p : Position) (tail : List Char) :
    blockHeader ⟨p, (if blankStart then ['2'] else []) ++ signOf chomp ++ '\n' :: tail⟩ =
      .ok (⟨chomp, if blankStart then some 2 else none⟩,
        ⟨p.advance ((if blankStart then 1 else 0) + (signOf chomp).length), '\n' :: tail⟩) := by
  cases blankStart <;> cases chomp <;> rfl

theorem lineEnd?_newline (p : Position) (tail : List Char) :
    lineEnd? ⟨p, '\n' :: tail⟩ = some ⟨p.newline 1, tail⟩ := by
  simp [lineEnd?, Cursor.skipWhile, Cursor.takeWhile, isSpace, Cursor.peek?, isBreak_newline,
    Cursor.skipBreak, Position.advance_zero]

/-- A literal scalar below a collection in the column `parent` is read as it was. -/
theorem blockScalar_literal {cs rest : List Char} {parent n : Nat} (hkept : KeepsBreaks cs)
    (hmem : '\n' ∈ cs) (htab : '\t' ∉ cs) (hn : n < parent + 2) (hopens : Lexer.Opens rest)
    {blank : Nat} (hblank : blank ≤ parent + 2) (p : Position) :
    ∃ p', p'.column = n ∧
      blockScalar false (some parent) ⟨p, literalHeader cs ++ '\n' ::
          (laid blank (parent + 2) true cs ++
            (lineEnding cs ++ (List.replicate n ' ' ++ rest)))⟩ =
        .ok (String.ofList cs, ⟨p', rest⟩) := by
  obtain ⟨chomp, hreads, hheader⟩ := literalHeader_eq hkept hmem
  obtain ⟨c, cs', rfl⟩ := List.exists_cons_of_ne_nil (List.ne_nil_of_mem hmem)
  have hlines : ∀ q : Position, q.column = 0 → ∃ p' : Position, p'.column = n ∧
      blockLines ⟨false, chomp, parent + 1⟩ (some (parent + 2)) 0 false .empty q
          (laid blank (parent + 2) true (c :: cs') ++
            (lineEnding (c :: cs') ++ (List.replicate n ' ' ++ rest))) =
        .ok (String.ofList (c :: cs'), ⟨p', rest⟩) := by
    intro q hq
    obtain ⟨deepest', b', p', hp', htext, hread⟩ := hreads ⟨false, chomp, parent + 1⟩ blank
      (parent + 2) 0 q (List.replicate n ' ' ++ rest) rfl hblank hq
    rw [blockLines_end hp' hn hopens, htext] at hread
    exact ⟨p'.advance n, by simp [Position.advance, hp'], hread⟩
  rw [hheader]
  simp only [blockScalar, blockHeader_written, bind, Except.bind, lineEnd?_newline]
  cases hstart : (c :: cs').head?.any fun c => c == ' ' || isBreak c with
  | true => exact hlines _ rfl
  | false =>
      simp only [List.head?_cons, Option.any_some, Bool.or_eq_false_iff, beq_eq_false_iff_ne]
        at hstart
      have hspace : isSpace c = false := by
        have hc : c ≠ '\t' := fun hc => htab (hc ▸ List.mem_cons_self ..)
        simp [isSpace, hstart.1, hc]
      have hleast : parent + 1 ≤ parent + 2 := Nat.le_succ _
      obtain ⟨p', hp', hread⟩ := hlines ((p.advance (0 + (signOf chomp).length)).newline 1) rfl
      exact ⟨p', hp', (blockLines_none hstart.2 hspace rfl hleast (Nat.succ_pos _)).trans hread⟩

end WorkItems.Yaml
