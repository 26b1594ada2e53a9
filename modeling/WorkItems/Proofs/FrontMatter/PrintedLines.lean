import WorkItems.Proofs.FrontMatter.Shifting
import WorkItems.Proofs.Yaml.PrintedData
/-!
# Printed lines below a field

The block style of a field is printed as a document of its own and then moved two columns to the
right. What is printed in a column is therefore read two columns further on.
-/

namespace WorkItems.FrontMatter

open Yaml

/-! ## Margins -/

theorem moved_replicate (n : Nat) (c : Char) (cs : List Char) :
    moved true (List.replicate n ' ' ++ c :: cs) =
      List.replicate (n + 2) ' ' ++ moved false (c :: cs) := by
  cases n with
  | zero => rfl
  | succ n =>
      have hspaces : '\n' ∉ List.replicate n ' ' := by simp
      rw [List.replicate_succ, List.cons_append, moved, show (' ' == '\n') = false from rfl,
        moved_append, moved_false hspaces, startsBehind_false hspaces]
      rfl

/-- Lines that are indented and then moved have margins, empty ones too. -/
theorem moved_indented {indent : Nat} {cs : List Char} (h : OnlyLineFeeds cs) :
    ∀ atStart, moved atStart (indented indent atStart cs) = laid 2 (indent + 2) atStart cs := by
  induction cs with
  | nil => exact fun _ => rfl
  | cons c cs ih =>
      intro atStart
      have hrest := ih h.tail
      rcases h c (List.mem_cons_self ..) with rfl | hbreak
      · rw [indented, isBreak_newline, if_pos rfl, moved, laid, isBreak_newline, if_pos rfl,
          show ('\n' == '\n') = true from rfl, hrest]
        cases atStart <;> rfl
      · have hbeq : (c == '\n') = false := by simp [ne_newline_of_not_isBreak hbreak]
        simp only [indented, laid, hbreak, Bool.false_eq_true, if_false]
        cases atStart with
        | false =>
            rw [if_neg (by simp), if_neg (by simp), List.nil_append, List.nil_append, moved, hbeq,
              hrest]
            rfl
        | true =>
            rw [if_pos rfl, if_pos rfl, pad, moved_replicate, moved, hbeq, hrest]
            rfl

/-! ## Whole lines -/

/-- A text that ends with a line feed, of characters that are printed as they are. -/
structure WholeLines (cs : List Char) : Prop where
  ends : cs.getLast? = some '\n'
  printable : ∀ c ∈ cs, isPrintable c = true

theorem WholeLines.noReturn {cs : List Char} (h : WholeLines cs) : '\r' ∉ cs :=
  fun hr => absurd (h.printable _ hr) (by decide)

theorem WholeLines.append (cs : List Char) {ds : List Char} (h : ∀ c ∈ cs, isPrintable c = true)
    (h' : WholeLines ds) : WholeLines (cs ++ ds) := by
  refine ⟨by rw [List.getLast?_append, h'.ends]; rfl, fun c hc => ?_⟩
  exact (List.mem_append.1 hc).elim (h c) (h'.printable c)

theorem WholeLines.startsBehind {cs : List Char} (h : WholeLines cs) (atStart : Bool) :
    startsBehind (· == '\n') atStart cs = true := by
  rw [Yaml.startsBehind, h.ends]
  rfl

theorem wholeLines_line {text : List Char} (h : ∀ c ∈ text, IsInLine c) :
    WholeLines (text ++ ['\n']) :=
  .append _ (fun c hc => (h c hc).printable) ⟨rfl, by decide⟩

/-! ## Scalars on the rest of a line -/

/-- Printed behind an indicator in the column `indent`, the text is read as these tokens. -/
structure EndsPrinted (indent : Nat) (printed : List Char) (ts : List Token) : Prop where
  whole : WholeLines (terminated (' ' :: printed))
  reads : ∃ text, moved false (terminated (' ' :: printed)) = ' ' :: text ∧
    EndsLine (indent + 2) text ts

theorem endsPrinted_line {indent : Nat} {text : List Char} {ts : List Token}
    (hchars : ∀ c ∈ text, IsInLine c) (h : EndsLine (indent + 2) (text ++ ['\n']) ts) :
    EndsPrinted indent text ts := by
  have hline : ∀ c ∈ ' ' :: text, IsInLine c :=
    List.forall_mem_cons.2 ⟨by decide, hchars⟩
  have hlast : (' ' :: text).getLast?.any isBreak = false := by
    cases hlast : (' ' :: text).getLast? with
    | none => rfl
    | some c => exact (hline c (List.mem_of_getLast? hlast)).noBreak
  have hterminated : terminated (' ' :: text) = ' ' :: text ++ ['\n'] := by
    rw [terminated, hlast, if_neg (by simp)]
  have hmoved : moved false (' ' :: text ++ ['\n']) = ' ' :: (text ++ ['\n']) := by
    have hfeed : '\n' ∉ ' ' :: text := fun hmem => absurd (hline _ hmem).noBreak (by decide)
    rw [moved_append, moved_false hfeed, startsBehind_false hfeed]
    rfl
  rw [← hterminated] at hmoved
  exact ⟨hterminated ▸ wholeLines_line hline, text ++ ['\n'], hmoved, h⟩

theorem exists_getLast? {cs : List Char} (h : cs ≠ []) : ∃ c, cs.getLast? = some c :=
  Option.ne_none_iff_exists'.1 fun hnone => h (List.getLast?_eq_none_iff.1 hnone)

theorem moved_lineEnding {indent : Nat} {cs : List Char} (h : OnlyLineFeeds cs) (hne : cs ≠ []) :
    moved true (indented indent true cs ++ lineEnding cs) =
      laid 2 (indent + 2) true cs ++ lineEnding cs := by
  rw [moved_append, moved_indented h]
  obtain ⟨c, hc⟩ := exists_getLast? hne
  rw [lineEnding, hc, Option.any_some]
  rcases h c (List.mem_of_getLast? hc) with rfl | hbreak
  · simp [isBreak_newline, moved]
  · have hfeed := ne_newline_of_not_isBreak hbreak
    have hbehind : startsBehind (· == '\n') true (indented indent true cs) = false := by
      simp [startsBehind, getLast?_indented hne, hc, hfeed]
    simp [hbreak, hbehind, moved]

/--
Lines of characters that are printed as they are end with a line feed once they are terminated.
-/
theorem wholeLines_indented {indent : Nat} {cs : List Char} (hprint : cs.all isPrintable = true)
    (honly : OnlyLineFeeds cs) (hne : cs ≠ []) :
    WholeLines (indented indent true cs ++ lineEnding cs) := by
  obtain ⟨c, hc⟩ := exists_getLast? hne
  constructor
  · rw [lineEnding, hc, Option.any_some]
    rcases honly c (List.mem_of_getLast? hc) with rfl | hbreak
    · rw [isBreak_newline, if_pos rfl, List.append_nil, getLast?_indented hne, hc]
    · rw [hbreak, if_neg (by simp), List.getLast?_append]
      rfl
  · refine List.forall_mem_append.2 ⟨fun c hc => ?_, fun c hc => ?_⟩
    · rcases mem_indented hc with rfl | hc
      · decide
      · exact List.all_eq_true.1 hprint c hc
    · rw [lineEnding] at hc
      split at hc
      · cases hc
      · obtain rfl : c = '\n' := by simpa using hc
        decide

/-- A string with line feeds is printed as it stands, each line with the same margin. -/
theorem endsPrinted_literal {indent : Nat} {cs : List Char} (hsep : NoSeparator cs)
    (hmem : '\n' ∈ cs) (hliteral : allowsLiteral cs = true) :
    EndsPrinted indent ('|' :: literalHeader cs ++ '\n' :: indented (indent + 2) true cs)
      [.scalar (String.ofList cs) .literal] := by
  simp only [allowsLiteral, Bool.and_eq_true] at hliteral
  have hprint := hliteral.1.1
  have honly := onlyLineFeeds_of_isPrintable hprint hsep
  have hne := List.ne_nil_of_mem hmem
  have hkept := keepsBreaks_of_isPrintable hprint
  have hline : ∀ c ∈ ' ' :: '|' :: literalHeader cs, IsInLine c :=
    List.forall_mem_cons.2 ⟨by decide,
      List.forall_mem_cons.2 ⟨by decide, isInLine_literalHeader hkept hmem⟩⟩
  have hterminated : terminated
      (' ' :: ('|' :: literalHeader cs ++ '\n' :: indented (indent + 2) true cs)) =
        (' ' :: '|' :: literalHeader cs) ++
          '\n' :: (indented (indent + 2) true cs ++ lineEnding cs) := by
    have h := terminated_indented (indent + 2) (' ' :: '|' :: literalHeader cs ++ ['\n']) hne
    simpa using h
  refine ⟨?_, '|' :: literalHeader cs ++ '\n' ::
    (laid 2 (indent + 2 + 2) true cs ++ lineEnding cs), ?_, endsLine_literal hkept hmem
      (tab_notMem_of_isPrintable hprint) (by omega)⟩
  · rw [hterminated]
    exact .append _ (fun c hc => (hline c hc).printable)
      (.append ['\n'] (by decide) (wholeLines_indented hprint honly hne))
  · have hfeed : '\n' ∉ ' ' :: '|' :: literalHeader cs :=
      fun hmem => absurd (hline _ hmem).noBreak (by decide)
    rw [hterminated, moved_append, moved_false hfeed, startsBehind_false hfeed, moved,
      show ('\n' == '\n') = true from rfl, moved_lineEnding honly hne]
    rfl

theorem endsPrinted_string (indent : Nat) {cs : List Char} (hsep : NoSeparator cs) :
    EndsPrinted indent (stringText (indent + 2) cs) [.scalar (String.ofList cs) (styleOf cs)] := by
  by_cases hmem : '\n' ∈ cs
  · have hcontains : cs.contains '\n' = true := by simpa using hmem
    by_cases hliteral : allowsLiteral cs = true
    · rw [stringText, styleOf, if_pos hcontains, if_pos hliteral]
      exact endsPrinted_literal hsep hmem hliteral
    · have hprinted : PrintedLine cs .doubleQuoted (doubleQuotes escaped cs) := .double
      rw [stringText, styleOf, if_pos hcontains, if_neg hliteral]
      exact endsPrinted_line hprinted.inLine (hprinted.endsLine _)
  · have hprinted := printedLine_of_styleOf hsep hmem (indent + 2)
    exact endsPrinted_line hprinted.inLine (hprinted.endsLine _)

/-! ## Data on the rest of a line -/

/-- Parts of data that are read where they are moved to: texts without separators, and no tags. -/
def movable : Data.Condition where
  number _ := True
  text s := NoSeparator s.toList
  tag _ _ := False

section Movable

variable {d : Data}

theorem writable_of_movable (h : d.Fulfils movable) : d.Fulfils writable :=
  h.imp (fun _ _ => trivial) (fun _ _ => trivial) fun _ _ htag => htag.elim

theorem endsPrinted_plain {text : String} (indent : Nat) (h : IsPlainText text) :
    EndsPrinted indent text.toList [.scalar text .plain] := by
  have hends := h.scalar.endsLine (indent + 2)
  rw [String.ofList_toList] at hends
  exact endsPrinted_line h.inLine hends

theorem endsPrinted_empty (kind : FlowKind) (indent : Nat) :
    EndsPrinted indent [kind.opening, kind.closing] [kind.start, kind.finish] := by
  have hchars : ∀ c ∈ [kind.opening, kind.closing], IsInLine c := by
    cases kind <;> decide
  exact endsPrinted_line hchars ((flowCollection_nil kind).endsLine _)

theorem endsPrinted_lineText (h : d.Fulfils movable) (hblock : d.isBlock = false) (indent : Nat) :
    EndsPrinted indent (d.lineText (indent + 2)) d.lineTokens := by
  cases h with
  | null => exact endsPrinted_plain indent isPlainText_null
  | bool => exact endsPrinted_plain indent (isPlainText_bool _)
  | number _ => exact endsPrinted_plain indent (isPlainText_number _)
  | @string s hs =>
      have hprinted := endsPrinted_string indent hs
      rwa [String.ofList_toList] at hprinted
  | @sequence ds _ =>
      cases ds with
      | nil => exact endsPrinted_empty .sequence indent
      | cons _ _ => cases hblock
  | @mapping es _ _ =>
      cases es with
      | nil => exact endsPrinted_empty .mapping indent
      | cons _ _ => cases hblock
  | tagged htag _ => exact htag.elim

end Movable

end WorkItems.FrontMatter
