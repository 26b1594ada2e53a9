import WorkItems.Proofs.Yaml.BlockScalars
/-!
# Strings as they are printed

Each style that `styleOf` chooses is one that reads back. The line breaks that are printed as they
are are the line feed and the two separators U+2028 and U+2029. Each of them is read as it is, so a
text with separators only is printed over several lines between single quotes.
-/

namespace WorkItems.Yaml

open Lexer

/-- The text has none of the two line breaks that are no control characters. -/
def NoSeparator (cs : List Char) : Prop := ∀ c ∈ cs, c ≠ '\u2028' ∧ c ≠ '\u2029'

/-! ## Characters that are printed as they are -/

theorem isBreak_of_isPrintable {c : Char} (hprint : isPrintable c = true)
    (hsep : c ≠ '\u2028' ∧ c ≠ '\u2029') (hbreak : isBreak c = true) : c = '\n' := by
  simp only [isBreak, Bool.or_eq_true, beq_iff_eq] at hbreak
  rcases hbreak with (((rfl | rfl) | rfl) | rfl) | rfl
  · rfl
  · exact absurd hprint (by decide)
  · exact absurd hprint (by decide)
  · exact absurd rfl hsep.1
  · exact absurd rfl hsep.2

/-- Line feeds are the only line breaks of a text. -/
def OnlyLineFeeds (cs : List Char) : Prop := ∀ c ∈ cs, c = '\n' ∨ isBreak c = false

theorem OnlyLineFeeds.tail {c : Char} {cs : List Char} (h : OnlyLineFeeds (c :: cs)) :
    OnlyLineFeeds cs := fun d hd => h d (List.mem_cons_of_mem _ hd)

theorem onlyLineFeeds_of_isPrintable {cs : List Char} (hprint : cs.all isPrintable = true)
    (hsep : NoSeparator cs) : OnlyLineFeeds cs := by
  intro c hc
  cases hbreak : isBreak c with
  | false => exact .inr rfl
  | true =>
      exact .inl (isBreak_of_isPrintable (List.all_eq_true.1 hprint c hc) (hsep c hc) hbreak)

/-- A line break that is printed is read as it is. -/
theorem keepsBreaks_of_isPrintable {cs : List Char} (hprint : cs.all isPrintable = true) :
    KeepsBreaks cs := by
  intro c hc hbreak
  by_cases hsep : c ≠ '\u2028' ∧ c ≠ '\u2029'
  · rw [isBreak_of_isPrintable (List.all_eq_true.1 hprint c hc) hsep hbreak]
    rfl
  · rw [readBreak, if_pos]
    simpa [Decidable.or_iff_not_imp_left] using hsep

theorem tab_notMem_of_isPrintable {cs : List Char} (hprint : cs.all isPrintable = true) :
    '\t' ∉ cs := fun htab => absurd (List.all_eq_true.1 hprint _ htab) (by decide)

/-- A character that is printed as it is, within a line. -/
structure IsInLine (c : Char) : Prop where
  printable : isPrintable c = true
  noBreak : isBreak c = false

instance (c : Char) : Decidable (IsInLine c) :=
  decidable_of_iff (isPrintable c = true ∧ isBreak c = false)
    ⟨fun h => ⟨h.1, h.2⟩, fun h => ⟨h.printable, h.noBreak⟩⟩

/-- A text in a line does not start with a byte order mark. -/
theorem head?_ne_mark {cs : List Char} (h : ∀ c ∈ cs, IsInLine c) : cs.head? ≠ some '\ufeff' :=
  fun hmark => absurd (h _ (List.mem_of_head? hmark)) (by decide)

theorem isInLine_of_ascii {c : Char} (h : 0x20 ≤ c.toNat) (h' : c.toNat ≤ 0x7E) : IsInLine c := by
  have hne : ∀ d : Char, d.toNat < 0x20 ∨ 0x7E < d.toNat → c ≠ d := by
    rintro d hd rfl
    omega
  constructor
  · simp only [isPrintable, Bool.or_eq_true, Bool.and_eq_true, decide_eq_true_eq]
    omega
  · simp [isBreak, hne '\n' (by decide), hne '\r' (by decide), hne '\u0085' (by decide),
      hne '\u2028' (by decide), hne '\u2029' (by decide)]

theorem isAllowed_of_isPrintable {c : Char} (h : isPrintable c = true) : isAllowed c = true := by
  have hlarge : c.toNat ≤ 0xFFFD ∨ c.toNat = 0xFFFE ∨ c.toNat = 0xFFFF ∨ 0x10000 ≤ c.toNat := by
    omega
  simp only [isPrintable, Bool.or_eq_true, Bool.and_eq_true, beq_iff_eq, decide_eq_true_eq,
    bne_iff_ne] at h
  simp only [isAllowed, Bool.or_eq_true, Bool.and_eq_true, beq_iff_eq, decide_eq_true_eq]
  omega

/-! ## Plain -/

theorem isPlainScalar_of_allowsPlain {cs : List Char} (h : allowsPlain cs = true) (hne : cs ≠ []) :
    IsPlainScalar false cs ∧ atMarker cs = false := by
  obtain ⟨c, rest, rfl⟩ := List.exists_cons_of_ne_nil hne
  simp only [allowsPlain, Bool.and_eq_true, Bool.not_eq_true', hasIndicator, Bool.or_eq_false_iff,
    isMultiline] at h
  obtain ⟨⟨⟨⟨hprint, hmulti⟩, hhead⟩, hlast⟩, ⟨⟨⟨hdashes, hdots⟩, hindicator⟩, hnext⟩, hinner⟩ := h
  simp only [isBlankEnd, List.head?_cons, Option.any_some, Bool.or_eq_false_iff,
    beq_eq_false_iff_ne] at hhead
  have htab := tab_notMem_of_isPrintable hprint
  have hctab : c ≠ '\t' := fun hc => htab (hc ▸ List.mem_cons_self ..)
  refine ⟨{
    noBreak := fun d hd => by simpa using List.any_eq_false.1 hmulti d hd
    noTab := htab
    noIndicator := hinner
    inFlow := fun he => absurd he (by decide)
    start := ⟨c, rest, rfl, hindicator, ?_, ?_, fun he => absurd he (by decide)⟩
    last := fun he => ?_ }, ?_⟩
  · simp [isSpaceOrBreak, isSpace, hhead, hctab]
  · rintro (rfl | rfl | rfl)
    · simpa using hnext
    · simpa using hnext
    · simp only [hasInnerIndicator, Bool.or_eq_false_iff] at hinner
      simpa using hinner.1.1
  · rw [he] at hlast
    exact absurd hlast (by decide)
  · rw [Bool.eq_false_iff, Ne, atMarker_iff]
    rintro ⟨tail, heq | heq, -⟩
    · rw [heq] at hdashes
      exact absurd hdashes (by simp)
    · rw [heq] at hdots
      exact absurd hdots (by simp)

/-! ## The styles on one line -/

/-- A scalar that reads back as the string it was, for its style or because it means a string. -/
def ReadsAsString (style : Style) (cs : List Char) : Prop := style ≠ .plain ∨ resolve cs = .string

theorem resolve_of_isStringText {cs : List Char} (h : isStringText cs = true) :
    resolve cs = .string := by
  rw [isStringText] at h
  split at h
  · assumption
  · cases h

theorem ne_nil_of_resolve {cs : List Char} (h : resolve cs = .string) : cs ≠ [] := by
  rintro rfl
  simp [resolve] at h

/-- What a string of one line is printed as. -/
inductive PrintedLine (cs : List Char) : Style → List Char → Prop where
  | plain : IsPlainScalar false cs → (∀ c ∈ cs, IsInLine c) → atMarker cs = false →
      resolve cs = .string → PrintedLine cs .plain cs
  | single : (∀ c ∈ cs, IsInLine c) → PrintedLine cs .singleQuoted (singleQuotes cs)
  | double : PrintedLine cs .doubleQuoted (doubleQuotes escaped cs)

theorem indented_of_noBreak {indent : Nat} {cs : List Char} (h : ∀ c ∈ cs, isBreak c = false) :
    indented indent false cs = cs := by
  induction cs with
  | nil => rfl
  | cons c cs ih =>
      rw [indented, h c (List.mem_cons_self ..), ih fun d hd => h d (List.mem_cons_of_mem _ hd)]
      rfl

theorem isInLine_doubledQuotes {cs : List Char} (h : ∀ c ∈ cs, IsInLine c) :
    ∀ c ∈ doubledQuotes cs, IsInLine c := by
  intro c hc
  obtain ⟨d, hd, hmem⟩ := List.mem_flatMap.1 hc
  split at hmem
  · obtain rfl : c = '\'' := by simpa using hmem
    exact ⟨by decide, by decide⟩
  · obtain rfl : c = d := by simpa using hmem
    exact h c hd

/-- What a style that is chosen for a text says about the text. -/
inductive Styled (cs : List Char) : Style → Prop where
  | plain : resolve cs = .string → allowsPlain cs = true → Styled cs .plain
  | single : '\n' ∉ cs → allowsSingleQuotes cs = true → Styled cs .singleQuoted
  | double : Styled cs .doubleQuoted
  | literal : '\n' ∈ cs → allowsLiteral cs = true → Styled cs .literal

theorem styled_styleOf (cs : List Char) : Styled cs (styleOf cs) := by
  rw [styleOf]
  split
  · rename_i hfeed
    split
    · exact .literal (by simpa using hfeed) ‹_›
    · exact .double
  · rename_i hfeed
    split
    · rename_i hplain
      simp only [Bool.and_eq_true] at hplain
      exact .plain (resolve_of_isStringText hplain.1.1) hplain.2
    · split
      · exact .single (by simpa using hfeed) ‹_›
      · exact .double

theorem isInLine_of_allowsPlain {cs : List Char} (h : allowsPlain cs = true) :
    ∀ c ∈ cs, IsInLine c := by
  simp only [allowsPlain, Bool.and_eq_true, Bool.not_eq_true', isMultiline] at h
  exact fun c hc => ⟨List.all_eq_true.1 h.1.1.1.1 c hc,
    by simpa using List.any_eq_false.1 h.1.1.1.2 c hc⟩

theorem printedLine_of_allowsPlain {cs : List Char} (hstring : resolve cs = .string)
    (hplain : allowsPlain cs = true) : PrintedLine cs .plain cs := by
  obtain ⟨hscalar, hmarker⟩ := isPlainScalar_of_allowsPlain hplain (ne_nil_of_resolve hstring)
  exact .plain hscalar (isInLine_of_allowsPlain hplain) hmarker hstring

theorem printedLine_of_styleOf {cs : List Char} (hsep : NoSeparator cs) (hline : '\n' ∉ cs)
    (indent : Nat) : PrintedLine cs (styleOf cs) (stringText indent cs) := by
  have hstyled := styled_styleOf cs
  rw [stringText]
  generalize styleOf cs = style at hstyled ⊢
  cases hstyled with
  | plain hstring hplain => exact printedLine_of_allowsPlain hstring hplain
  | double => exact .double
  | literal hfeed _ => exact absurd hfeed hline
  | single _ hsingle =>
      simp only [allowsSingleQuotes, Bool.and_eq_true] at hsingle
      have hchars : ∀ c ∈ cs, IsInLine c := fun c hc => ⟨List.all_eq_true.1 hsingle.1.1 c hc,
        (onlyLineFeeds_of_isPrintable hsingle.1.1 hsep c hc).resolve_left fun he => hline (he ▸ hc)⟩
      have hending : cs.getLast?.any isBreak = false := by
        cases hlast : cs.getLast? with
        | none => rfl
        | some c => exact (hchars c (List.mem_of_getLast? hlast)).noBreak
      have hquotes : ∀ c ∈ doubledQuotes cs, isBreak c = false :=
        fun c hc => (isInLine_doubledQuotes hchars c hc).noBreak
      simp only [indented_of_noBreak hquotes, hending, Bool.false_eq_true, if_false,
        List.append_nil]
      exact .single hchars

section PrintedLine

variable {cs text : List Char} {style : Style}

theorem PrintedLine.starts (h : PrintedLine cs style text) : StartsToken text := by
  cases h with
  | plain hscalar hchars _ _ => exact hscalar.starts.startsToken (head?_ne_mark hchars)
  | single _ => exact ⟨'\'', _, rfl, by decide, by decide, by decide⟩
  | double => exact ⟨'"', _, rfl, by decide, by decide, by decide⟩

theorem PrintedLine.isKey (h : PrintedLine cs style text) :
    IsKey text [.scalar (String.ofList cs) style] := by
  cases h with
  | plain hscalar _ hmarker _ => exact hscalar.isKey hmarker
  | single hchars => exact isKey_singleQuoted fun c hc => (hchars c hc).noBreak
  | double => exact isKey_doubleQuoted fun c _ => escapes_escaped c

theorem PrintedLine.endsLine (h : PrintedLine cs style text) (parent : Nat) :
    EndsLine parent (text ++ ['\n']) [.scalar (String.ofList cs) style] := by
  cases h with
  | plain hscalar _ _ _ => exact hscalar.endsLine parent
  | single hchars => exact endsLine_singleQuoted parent fun c hc => (hchars c hc).noBreak
  | double => exact endsLine_doubleQuoted parent fun c _ => escapes_escaped c

end PrintedLine

/-! ## The last thing of a line -/

theorem terminated_eq (cs : List Char) : terminated cs = cs ++ lineEnding cs := by
  rw [terminated, lineEnding]
  split <;> simp

theorem terminated_append (cs : List Char) {ds : List Char} (hne : ds ≠ []) :
    terminated (cs ++ ds) = cs ++ terminated ds := by
  have hlast : (cs ++ ds).getLast? = ds.getLast? := by
    rw [List.getLast?_append, List.getLast?_eq_some_getLast hne]
    rfl
  rw [terminated_eq, terminated_eq, lineEnding, hlast, ← lineEnding, List.append_assoc]

theorem terminated_of_last {cs : List Char} {c : Char} (h : isBreak c = false) :
    terminated (cs ++ [c]) = cs ++ [c] ++ ['\n'] := by
  simp [terminated, h]

theorem getLast?_indented {indent : Nat} {cs : List Char} (hne : cs ≠ []) :
    ∀ atStart, (indented indent atStart cs).getLast? = cs.getLast? := by
  induction cs with
  | nil => exact absurd rfl hne
  | cons c cs ih =>
      intro atStart
      have hrest : ∀ b, (c :: indented indent b cs).getLast? = (c :: cs).getLast? := by
        intro b
        cases cs with
        | nil => rfl
        | cons d ds => rw [List.getLast?_cons, List.getLast?_cons, ih (by simp) b]
      rw [indented]
      split
      · exact hrest true
      · rw [List.getLast?_append, hrest false, List.getLast?_cons]
        rfl

/-- Lines that stay where they are printed have no margins in front of empty ones. -/
theorem indented_eq_laid (indent : Nat) (cs : List Char) :
    ∀ atStart, indented indent atStart cs = laid 0 indent atStart cs := by
  induction cs with
  | nil => exact fun _ => rfl
  | cons c cs ih =>
      intro atStart
      simp [indented, laid, ih, pad]

theorem terminated_indented (indent : Nat) (header : List Char) {cs : List Char} (hne : cs ≠ []) :
    terminated (header ++ indented indent true cs) =
      header ++ (indented indent true cs ++ lineEnding cs) := by
  have hindented : indented indent true cs ≠ [] := fun hnil =>
    hne (List.getLast?_eq_none_iff.1 (by rw [← getLast?_indented hne true, hnil]; rfl))
  rw [terminated_append _ hindented, terminated_eq, lineEnding, getLast?_indented hne, ← lineEnding]

theorem isQuotable_of_allowsSingleQuotes {cs : List Char} (h : allowsSingleQuotes cs = true)
    (hfeed : '\n' ∉ cs) : IsQuotable cs := by
  simp only [allowsSingleQuotes, Bool.and_eq_true, Bool.not_eq_true'] at h
  exact {
    kept := fun c hc hbreak =>
      ⟨keepsBreaks_of_isPrintable h.1.1 c hc hbreak, fun he => hfeed (he ▸ hc)⟩
    noTab := tab_notMem_of_isPrintable h.1.1
    noSpaceBehind := h.1.2
    noSpaceBefore := h.2 }

/-- Any string is read as it was, if it is the last thing of a line. -/
theorem endsLine_stringText (parent : Nat) (cs : List Char) :
    EndsLine parent (terminated (stringText (parent + 2) cs))
      [.scalar (String.ofList cs) (styleOf cs)] := by
  have hstyled := styled_styleOf cs
  rw [stringText]
  generalize styleOf cs = style at hstyled ⊢
  cases hstyled with
  | plain hstring hplain =>
      have hprinted := printedLine_of_allowsPlain hstring hplain
      obtain ⟨front, c, rfl⟩ : ∃ front c, cs = front ++ [c] :=
        ⟨_, _, (List.dropLast_concat_getLast (ne_nil_of_resolve hstring)).symm⟩
      have hc := (isInLine_of_allowsPlain hplain c (by simp)).noBreak
      dsimp only
      rw [terminated_of_last hc]
      exact hprinted.endsLine parent
  | double =>
      dsimp only
      rw [terminated_of_last (by decide)]
      exact endsLine_doubleQuoted parent fun c _ => escapes_escaped c
  | single hfeed hsingle =>
      have hlines := endsLine_quotedLines parent (parent + 2)
        (isQuotable_of_allowsSingleQuotes hsingle hfeed) (Nat.succ_pos _)
      have hbehind : startsBehind isBreak false cs = cs.getLast?.any isBreak := by
        rw [startsBehind]
        cases cs.getLast? <;> rfl
      rw [quotedLines, quoteMargin, hbehind] at hlines
      dsimp only
      rw [terminated_of_last (by decide)]
      simpa using hlines
  | literal hfeed hliteral =>
      simp only [allowsLiteral, Bool.and_eq_true] at hliteral
      have hprint := hliteral.1.1
      have hlines := endsLine_literal (keepsBreaks_of_isPrintable hprint) hfeed
        (tab_notMem_of_isPrintable hprint) (Nat.zero_le (parent + 2))
      have htext := terminated_indented (parent + 2) ('|' :: literalHeader cs ++ ['\n'])
        (List.ne_nil_of_mem hfeed)
      rw [indented_eq_laid, List.append_assoc, List.append_assoc] at htext
      dsimp only
      rw [indented_eq_laid]
      exact htext ▸ hlines

/-! ## Printed lines are lines -/

theorem isInLine_hexDigits (n value : Nat) : ∀ d ∈ hexDigits n value, IsInLine d := by
  intro d hd
  have hprintable : ∀ v < 16,
      isPrintable (Char.ofNat (if v < 10 then 48 + v else 55 + v)) = true := by
    decide
  have hbreak : ∀ v < 16, isBreak (Char.ofNat (if v < 10 then 48 + v else 55 + v)) = false := by
    decide
  obtain ⟨k, -, rfl⟩ := List.mem_map.1 hd
  exact ⟨hprintable _ (Nat.mod_lt _ (by omega)), hbreak _ (Nat.mod_lt _ (by omega))⟩

theorem isInLine_escapeLetter {c l : Char} (h : escapeLetter? c = some l) : IsInLine l := by
  unfold escapeLetter? at h
  split at h <;> first | (cases h; decide) | cases h

theorem isInLine_escaped (c : Char) : ∀ d ∈ escaped c, IsInLine d := by
  have hslash : IsInLine '\\' := by decide
  have hletter : IsInLine 'x' ∧ IsInLine 'u' := by decide
  rw [escaped]
  split
  · rename_i hc
    simp only [Bool.and_eq_true, Bool.not_eq_true'] at hc
    simpa using IsInLine.mk hc.1.1.1 hc.1.1.2
  · split
    · rename_i l hl
      simpa using And.intro hslash (isInLine_escapeLetter hl)
    · dsimp only
      split
      · exact List.forall_mem_cons.2 ⟨hslash, List.forall_mem_cons.2
          ⟨hletter.1, isInLine_hexDigits _ _⟩⟩
      · exact List.forall_mem_cons.2 ⟨hslash, List.forall_mem_cons.2
          ⟨hletter.2, isInLine_hexDigits _ _⟩⟩

theorem isPrintable_pad (column : Nat) : ∀ c ∈ pad column, isPrintable c = true := by
  intro c hc
  obtain rfl := List.eq_of_mem_replicate hc
  decide

/-- What holds of quotes and of all that is between them. -/
theorem forall_mem_between {P : Char → Prop} {q : Char} {cs : List Char} (hq : P q)
    (h : ∀ c ∈ cs, P c) : ∀ c ∈ q :: cs ++ [q], P c := by
  simpa [or_imp, forall_and, hq] using h

section PrintedLine

variable {cs text : List Char} {style : Style}

theorem PrintedLine.inLine (h : PrintedLine cs style text) : ∀ c ∈ text, IsInLine c := by
  cases h with
  | plain _ hchars _ _ => exact hchars
  | single hchars =>
      exact forall_mem_between (by decide) (isInLine_doubledQuotes hchars)
  | double =>
      refine forall_mem_between (by decide) fun c hc => ?_
      obtain ⟨d, -, hd⟩ := List.mem_flatMap.1 hc
      exact isInLine_escaped d c hd

theorem mem_indented {indent : Nat} {d : Char} {cs : List Char} :
    ∀ {atStart : Bool}, d ∈ indented indent atStart cs → d = ' ' ∨ d ∈ cs := by
  induction cs with
  | nil => exact fun h => .inr h
  | cons c cs ih =>
      intro atStart h
      rw [indented] at h
      split at h
      · rcases List.mem_cons.1 h with rfl | h
        · exact .inr (List.mem_cons_self ..)
        · exact (ih h).imp_right (List.mem_cons_of_mem _)
      · rcases List.mem_append.1 h with h | h
        · split at h
          · exact .inl (List.eq_of_mem_replicate h)
          · cases h
        · rcases List.mem_cons.1 h with rfl | h
          · exact .inr (List.mem_cons_self ..)
          · exact (ih h).imp_right (List.mem_cons_of_mem _)

theorem isInLine_literalHeader {cs : List Char} (h : KeepsBreaks cs) (hmem : '\n' ∈ cs) :
    ∀ c ∈ literalHeader cs, IsInLine c := by
  obtain ⟨chomp, -, hheader⟩ := literalHeader_eq h hmem
  intro c hc
  rw [hheader] at hc
  rcases List.mem_append.1 hc with hc | hc
  · split at hc
    · obtain rfl : c = '2' := by simpa using hc
      decide
    · cases hc
  · cases chomp <;> simp [signOf] at hc <;> subst hc <;> decide

/-- A string is printed with characters that are printed as they are. -/
theorem isPrintable_stringText (indent : Nat) (cs : List Char) :
    ∀ c ∈ stringText indent cs, isPrintable c = true := by
  have hstyled := styled_styleOf cs
  have hindented : ∀ {atStart : Bool} {ds : List Char}, (∀ c ∈ ds, isPrintable c = true) →
      ∀ c ∈ indented indent atStart ds, isPrintable c = true := by
    intro atStart ds hds c hc
    rcases mem_indented hc with rfl | hc
    · decide
    · exact hds c hc
  rw [stringText]
  generalize styleOf cs = style at hstyled ⊢
  cases hstyled with
  | plain _ hplain => exact fun c hc => (isInLine_of_allowsPlain hplain c hc).printable
  | double => exact fun c hc => (PrintedLine.double.inLine c hc).printable
  | single _ hsingle =>
      simp only [allowsSingleQuotes, Bool.and_eq_true] at hsingle
      have hquotes : ∀ c ∈ doubledQuotes cs, isPrintable c = true := by
        intro c hc
        obtain ⟨d, hd, hmem⟩ := List.mem_flatMap.1 hc
        have hprint := List.all_eq_true.1 hsingle.1.1 d hd
        split at hmem
        · obtain rfl : c = '\'' := by simpa using hmem
          decide
        · rwa [List.mem_singleton.1 hmem]
      have hpad : ∀ c ∈ (if cs.getLast?.any isBreak then pad indent else []),
          isPrintable c = true := by
        intro c hc
        split at hc
        · exact isPrintable_pad indent c hc
        · cases hc
      refine List.forall_mem_append.2 ⟨List.forall_mem_append.2 ⟨?_, hpad⟩, by decide⟩
      exact List.forall_mem_cons.2 ⟨by decide, hindented hquotes⟩
  | literal hfeed hliteral =>
      simp only [allowsLiteral, Bool.and_eq_true] at hliteral
      have hprint := hliteral.1.1
      have hheader := isInLine_literalHeader (keepsBreaks_of_isPrintable hprint) hfeed
      refine List.forall_mem_append.2 ⟨List.forall_mem_cons.2 ⟨by decide, ?_⟩,
        List.forall_mem_cons.2 ⟨by decide, hindented (List.all_eq_true.1 hprint)⟩⟩
      exact fun c hc => (hheader c hc).printable

/-! ## The length of a key -/

theorem length_le_utf8ByteSize (cs : List Char) : cs.length ≤ (String.ofList cs).utf8ByteSize := by
  induction cs with
  | nil => simp
  | cons c cs ih =>
      have hpos := c.utf8Size_pos
      rw [String.ofList_cons, String.utf8ByteSize_append, String.utf8ByteSize_singleton,
        List.length_cons]
      omega

theorem length_flatMap_le {write : Char → List Char} {n : Nat} (h : ∀ c, (write c).length ≤ n)
    (cs : List Char) : (cs.flatMap write).length ≤ n * cs.length := by
  induction cs with
  | nil => simp
  | cons c cs ih =>
      have hc := h c
      rw [List.flatMap_cons, List.length_append, List.length_cons, Nat.mul_succ]
      omega

theorem length_escaped (c : Char) : (escaped c).length ≤ 6 := by
  rw [escaped]
  split
  · simp
  · split
    · simp
    · dsimp only
      split <;> simp [length_hexDigits]

/-- A string of one line is not printed much longer than it is. -/
theorem PrintedLine.length_le (h : PrintedLine cs style text) :
    text.length ≤ 6 * (String.ofList cs).utf8ByteSize + 2 := by
  have hlength := length_le_utf8ByteSize cs
  cases h with
  | plain _ _ _ _ => omega
  | single _ =>
      have hquotes := length_flatMap_le (n := 2)
        (fun c : Char => show (if c == '\'' then ['\'', '\''] else [c]).length ≤ 2 by
          split <;> simp) cs
      simp only [singleQuotes, doubledQuotes, List.length_append, List.length_cons,
        List.length_nil]
      omega
  | double =>
      have hescaped := length_flatMap_le length_escaped cs
      simp only [doubleQuotes, List.length_append, List.length_cons, List.length_nil]
      omega

end PrintedLine

end WorkItems.Yaml
