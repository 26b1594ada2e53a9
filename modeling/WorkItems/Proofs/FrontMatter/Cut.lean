import WorkItems.FrontMatter.Reader
import WorkItems.Proofs.Except
import WorkItems.Proofs.Text.Lines
/-!
# Where a document is cut

A document is cut into five parts: blank lines, a delimiter line, the lines of the block, another
delimiter line, and the body. The parts are texts behind one another, and what makes a text one of
them is said here without looking at lines one after the other. There is at most one such cut of a
document, and reading finds it if there is one.

A delimiter line that closes the block may be the end of the document, and then the line feed may be
missing. The one that opens the block may not, as the other one comes behind it.
-/

namespace WorkItems.FrontMatter

/-! ## The parts of a document -/

/-- Three dashes with carriage returns and line feeds behind them. -/
def IsDelimiter (line : List Char) : Prop :=
  ∃ ends, (∀ c ∈ ends, Text.isLineEnd c = true) ∧ line = delimiter.toList ++ ends

/-- A line of blanks. -/
def IsBlankLine (line : List Char) : Prop := ∀ c ∈ line, Text.isBlank c = true

/-- Whole lines behind one another, each with a property. -/
def IsRun (P : List Char → Prop) (cs : List Char) : Prop :=
  ∃ ls : List (List Char), (∀ l ∈ ls, Text.IsWholeLine l ∧ P l) ∧ cs = ls.flatten

/-- A cut of a document into its parts. -/
structure Cut (raw : String) where
  blanks : String
  opening : String
  block : String
  closing : String
  body : String
  raw_eq : raw = blanks ++ opening ++ block ++ closing ++ body
  isRun_blanks : IsRun IsBlankLine blanks.toList
  isWholeLine_opening : Text.IsWholeLine opening.toList
  isDelimiter_opening : IsDelimiter opening.toList
  isRun_block : IsRun (fun line => ¬IsDelimiter line) block.toList
  isDelimiter_closing : IsDelimiter closing.toList
  /-- The closing line is a whole one, or the end of the document. -/
  ends_closing : Text.IsWholeLine closing.toList ∨ ('\n' ∉ closing.toList ∧ body = "")

/-! ## Lines -/

theorem isBlank_of_isLineEnd {c : Char} (h : Text.isLineEnd c = true) : Text.isBlank c = true := by
  rcases Bool.or_eq_true_iff.1 h with h | h
  · rw [beq_iff_eq.1 h]
    decide
  · rw [beq_iff_eq.1 h]
    decide

theorem isDelimiterLine_iff {line : List Char} :
    isDelimiterLine line = true ↔ IsDelimiter line := by
  rw [isDelimiterLine, beq_iff_eq]
  constructor
  · intro h
    obtain ⟨ends, hends, hline⟩ := Text.exists_chomp_append line
    exact ⟨ends, hends, h ▸ hline⟩
  · rintro ⟨ends, hends, rfl⟩
    rw [Text.chomp_append_ends hends]
    decide

theorem isBlankLine_iff {line : List Char} :
    (Text.chomp line).all Text.isBlank = true ↔ IsBlankLine line := by
  obtain ⟨ends, hends, hline⟩ := Text.exists_chomp_append line
  rw [List.all_eq_true, IsBlankLine]
  constructor
  · intro h c hc
    rw [hline, List.mem_append] at hc
    exact hc.elim (h c) fun hc => isBlank_of_isLineEnd (hends c hc)
  · intro h c hc
    exact h c ((Text.chomp_isPrefix line).subset hc)

theorem IsDelimiter.not_isBlankLine {line : List Char} (h : IsDelimiter line) :
    ¬IsBlankLine line := by
  obtain ⟨ends, -, rfl⟩ := h
  intro hblank
  exact absurd (hblank '-' (List.mem_append_left _ (by decide))) (by decide)

/-- The lines behind the opening one are those behind a delimiter that only blank lines precede. -/
theorem afterOpening_eq_ok_iff {ls rest : List (List Char)} : afterOpening ls = .ok rest ↔
    ∃ blanks opening, ls = blanks ++ opening :: rest ∧ (∀ l ∈ blanks, IsBlankLine l) ∧
      IsDelimiter opening := by
  induction ls with
  | nil =>
      constructor
      · intro h
        cases h
      · rintro ⟨blanks, opening, heq, -⟩
        exact absurd heq.symm (by simp)
  | cons line ls ih =>
      rw [afterOpening]
      by_cases hblank : IsBlankLine line
      · rw [if_pos (isBlankLine_iff.2 hblank), ih]
        constructor
        · rintro ⟨blanks, opening, rfl, hblanks, hopening⟩
          exact ⟨line :: blanks, opening, rfl, List.forall_mem_cons.2 ⟨hblank, hblanks⟩, hopening⟩
        · rintro ⟨blanks, opening, heq, hblanks, hopening⟩
          cases blanks with
          | nil =>
              obtain ⟨rfl, -⟩ := List.cons.inj heq
              exact absurd hblank hopening.not_isBlankLine
          | cons first blanks =>
              exact ⟨blanks, opening, (List.cons.inj heq).2,
                (List.forall_mem_cons.1 hblanks).2, hopening⟩
      · rw [if_neg (mt isBlankLine_iff.1 hblank)]
        constructor
        · intro h
          split at h
          · rename_i hdelimiter
            obtain rfl := Except.ok.inj h
            exact ⟨[], line, rfl, by simp, isDelimiterLine_iff.1 hdelimiter⟩
          · cases h
        · rintro ⟨blanks, opening, heq, hblanks, hopening⟩
          cases blanks with
          | nil =>
              obtain ⟨rfl, rfl⟩ := List.cons.inj heq
              rw [if_pos (isDelimiterLine_iff.2 hopening)]
          | cons first blanks =>
              obtain ⟨rfl, -⟩ := List.cons.inj heq
              exact absurd (hblanks line (List.mem_cons_self ..)) hblank

/-- The lines of the block are those in front of the first delimiter. -/
theorem upToClosing_eq_ok_iff {ls block body : List (List Char)} :
    upToClosing ls = .ok (block, body) ↔
      ∃ closing, ls = block ++ closing :: body ∧ (∀ l ∈ block, ¬IsDelimiter l) ∧
        IsDelimiter closing := by
  induction ls generalizing block with
  | nil =>
      constructor
      · intro h
        cases h
      · rintro ⟨closing, heq, -⟩
        exact absurd heq.symm (by simp)
  | cons line ls ih =>
      rw [upToClosing]
      by_cases hdelimiter : IsDelimiter line
      · rw [if_pos (isDelimiterLine_iff.2 hdelimiter)]
        constructor
        · intro h
          cases h
          exact ⟨line, rfl, by simp, hdelimiter⟩
        · rintro ⟨closing, heq, hblock, -⟩
          cases block with
          | nil =>
              obtain ⟨-, rfl⟩ := List.cons.inj heq
              rfl
          | cons first block =>
              obtain ⟨rfl, -⟩ := List.cons.inj heq
              exact absurd hdelimiter (hblock line (List.mem_cons_self ..))
      · rw [if_neg (mt isDelimiterLine_iff.1 hdelimiter)]
        constructor
        · intro h
          obtain ⟨⟨behind, rest⟩, hrest, h⟩ := exists_of_bind_eq_ok h
          cases h
          obtain ⟨closing, rfl, hbehind, hclosing⟩ := ih.1 hrest
          exact ⟨closing, rfl, List.forall_mem_cons.2 ⟨hdelimiter, hbehind⟩, hclosing⟩
        · rintro ⟨closing, heq, hblock, hclosing⟩
          cases block with
          | nil =>
              obtain ⟨rfl, -⟩ := List.cons.inj heq
              exact absurd hclosing hdelimiter
          | cons first block =>
              obtain ⟨rfl, hls⟩ := List.cons.inj heq
              rw [ih.2 ⟨closing, hls, (List.forall_mem_cons.1 hblock).2, hclosing⟩]
              rfl

/-! ## Cuts and lines -/

/-- A list splits at its first member without a property in one way. -/
theorem eq_of_append_cons_eq {α : Type} {p : α → Prop} {a b : α}
    {before before' behind behind' : List α}
    (h : before ++ a :: behind = before' ++ b :: behind') (hbefore : ∀ x ∈ before, p x) (ha : ¬p a)
    (hbefore' : ∀ x ∈ before', p x) (hb : ¬p b) : before = before' ∧ a = b ∧ behind = behind' := by
  induction before generalizing before' with
  | nil =>
      cases before' with
      | nil => exact ⟨rfl, List.cons.inj h⟩
      | cons x before' =>
          obtain ⟨rfl, -⟩ := List.cons.inj h
          exact absurd (hbefore' a (List.mem_cons_self ..)) ha
  | cons x before ih =>
      cases before' with
      | nil =>
          obtain ⟨rfl, -⟩ := List.cons.inj h
          exact absurd (hbefore x (List.mem_cons_self ..)) hb
      | cons y before' =>
          obtain ⟨rfl, htail⟩ := List.cons.inj h
          obtain ⟨rfl, hrest⟩ :=
            ih htail (List.forall_mem_cons.1 hbefore).2 (List.forall_mem_cons.1 hbefore').2
          exact ⟨rfl, hrest⟩

/-- The lines of a document that is cut are those of its parts. -/
theorem Cut.lines_eq {raw : String} (c : Cut raw) : ∃ blanks block : List (List Char),
    Text.lines raw.toList = blanks ++ c.opening.toList ::
      (block ++ c.closing.toList :: Text.lines c.body.toList) ∧
    (∀ l ∈ blanks, IsBlankLine l) ∧ c.blanks.toList = blanks.flatten ∧
    (∀ l ∈ block, ¬IsDelimiter l) ∧ c.block.toList = block.flatten := by
  obtain ⟨blanks, hblanks, hblanksText⟩ := c.isRun_blanks
  obtain ⟨block, hblock, hblockText⟩ := c.isRun_block
  obtain ⟨first, hfirst, hopening⟩ := c.isWholeLine_opening
  have hbehind : Text.lines (c.closing.toList ++ c.body.toList) =
      c.closing.toList :: Text.lines c.body.toList := by
    rcases c.ends_closing with ⟨last, hlast, hclosing⟩ | ⟨hlast, hbody⟩
    · rw [hclosing, List.append_assoc, List.singleton_append, Text.lines_append_line hlast]
    · obtain ⟨ends, -, hends⟩ := c.isDelimiter_closing
      have hne : c.closing.toList ≠ [] := by
        rw [hends]
        exact List.cons_ne_nil _ _
      rw [hbody, String.toList_empty, List.append_nil, Text.lines_of_not_mem hlast hne]
      rfl
  refine ⟨blanks, block, ?_, fun l hl => (hblanks l hl).2, hblanksText,
    fun l hl => (hblock l hl).2, hblockText⟩
  calc Text.lines raw.toList
      = Text.lines (blanks.flatten ++ (c.opening.toList ++
          (block.flatten ++ (c.closing.toList ++ c.body.toList)))) := by
        rw [← hblanksText, ← hblockText]
        refine congrArg Text.lines ((congrArg String.toList c.raw_eq).trans ?_)
        simp only [String.toList_append, List.append_assoc]
    _ = blanks ++ Text.lines (c.opening.toList ++
          (block.flatten ++ (c.closing.toList ++ c.body.toList))) :=
        Text.lines_append_lines (fun l hl => (hblanks l hl).1) _
    _ = blanks ++ c.opening.toList ::
          Text.lines (block.flatten ++ (c.closing.toList ++ c.body.toList)) := by
        rw [hopening, List.append_assoc, List.singleton_append, Text.lines_append_line hfirst]
    _ = blanks ++ c.opening.toList :: (block ++ c.closing.toList :: Text.lines c.body.toList) := by
        rw [Text.lines_append_lines fun l hl => (hblock l hl).1, hbehind]

/-- A document is cut in at most one way. -/
theorem Cut.unique {raw : String} (a b : Cut raw) : a = b := by
  obtain ⟨blanks, block, hlines, hblanks, hblanksText, hblock, hblockText⟩ := a.lines_eq
  obtain ⟨blanks', block', hlines', hblanks', hblanksText', hblock', hblockText'⟩ := b.lines_eq
  obtain ⟨rfl, hopening, hrest⟩ := eq_of_append_cons_eq (hlines.symm.trans hlines') hblanks
    a.isDelimiter_opening.not_isBlankLine hblanks' b.isDelimiter_opening.not_isBlankLine
  obtain ⟨rfl, hclosing, hbody⟩ := eq_of_append_cons_eq hrest hblock
    (not_not_intro a.isDelimiter_closing) hblock' (not_not_intro b.isDelimiter_closing)
  have hbody' := congrArg List.flatten hbody
  rw [Text.flatten_lines, Text.flatten_lines] at hbody'
  have hparts : a.blanks = b.blanks ∧ a.opening = b.opening ∧ a.block = b.block ∧
      a.closing = b.closing ∧ a.body = b.body :=
    ⟨String.toList_inj.1 (hblanksText.trans hblanksText'.symm), String.toList_inj.1 hopening,
      String.toList_inj.1 (hblockText.trans hblockText'.symm), String.toList_inj.1 hclosing,
      String.toList_inj.1 hbody'⟩
  obtain ⟨_, _, _, _, _, _, _, _, _, _, _, _⟩ := a
  obtain ⟨_, _, _, _, _, _, _, _, _, _, _, _⟩ := b
  obtain ⟨rfl, rfl, rfl, rfl, rfl⟩ := hparts
  rfl

theorem split_of_cut {raw : String} (c : Cut raw) : split raw = .ok (c.block, c.body) := by
  obtain ⟨blanks, block, hlines, hblanks, -, hblock, hblockText⟩ := c.lines_eq
  have hopened := afterOpening_eq_ok_iff.2 ⟨blanks, _, hlines, hblanks, c.isDelimiter_opening⟩
  have hclosed : upToClosing (block ++ c.closing.toList :: Text.lines c.body.toList) =
      .ok (block, Text.lines c.body.toList) :=
    upToClosing_eq_ok_iff.2 ⟨_, rfl, hblock, c.isDelimiter_closing⟩
  simp only [split, hopened, hclosed, bind, Except.bind, ← hblockText, Text.flatten_lines,
    String.ofList_toList]

theorem cut_of_split {raw block body : String} (h : split raw = .ok (block, body)) :
    ∃ c : Cut raw, c.block = block ∧ c.body = body := by
  obtain ⟨rest, hopened, h⟩ := exists_of_bind_eq_ok h
  obtain ⟨parts, hclosed, h⟩ := exists_of_bind_eq_ok h
  cases h
  obtain ⟨blanks, opening, hlines, hblanks, hopening⟩ := afterOpening_eq_ok_iff.1 hopened
  obtain ⟨closing, rfl, hblock, hclosing⟩ := upToClosing_eq_ok_iff.1 hclosed
  have hparts : Text.lines raw.toList =
      (blanks ++ opening :: parts.1) ++ closing :: parts.2 := by
    rw [hlines, List.append_assoc, List.cons_append]
  obtain ⟨hwhole, hend⟩ := Text.isWholeLine_of_lines_eq hparts
  have hmem : ∀ l ∈ parts.1, l ∈ blanks ++ opening :: parts.1 := fun l hl =>
    List.mem_append_right _ (List.mem_cons_of_mem _ hl)
  refine ⟨{
    blanks := String.ofList blanks.flatten
    opening := String.ofList opening
    block := String.ofList parts.1.flatten
    closing := String.ofList closing
    body := String.ofList parts.2.flatten
    raw_eq := ?_
    isRun_blanks := ⟨blanks, fun l hl => ⟨hwhole l (List.mem_append_left _ hl), hblanks l hl⟩,
      String.toList_ofList⟩
    isWholeLine_opening := ?_
    isDelimiter_opening := ?_
    isRun_block := ⟨parts.1, fun l hl => ⟨hwhole l (hmem l hl), hblock l hl⟩,
      String.toList_ofList⟩
    isDelimiter_closing := ?_
    ends_closing := ?_ }, rfl, rfl⟩
  · have htext := (Text.flatten_lines raw.toList).symm.trans (congrArg List.flatten hparts)
    refine String.toList_inj.1 (htext.trans ?_)
    simp [String.toList_append]
  · rw [String.toList_ofList]
    exact hwhole opening (List.mem_append_right _ (List.mem_cons_self ..))
  · rw [String.toList_ofList]
    exact hopening
  · rw [String.toList_ofList]
    exact hclosing
  · rw [String.toList_ofList]
    refine hend.imp_right fun ⟨hmem, hnone⟩ => ⟨hmem, ?_⟩
    rw [hnone]
    rfl

/--
Reading cuts a document exactly where it can be cut: it gives the block and the body of a cut if
there is one, which is then the only one, and else an error.
-/
theorem split_finds_cut (raw : String) :
    (∀ block body, split raw = .ok (block, body) ↔
      ∃ c : Cut raw, c.block = block ∧ c.body = body) ∧
    (∀ a b : Cut raw, a = b) ∧
    ((∃ e, split raw = .error e) ↔ ¬Nonempty (Cut raw)) := by
  refine ⟨fun block body => ⟨cut_of_split, ?_⟩, Cut.unique, ?_⟩
  · rintro ⟨c, rfl, rfl⟩
    exact split_of_cut c
  · constructor
    · rintro ⟨e, he⟩ ⟨c⟩
      rw [split_of_cut c] at he
      cases he
    · intro hnone
      cases hsplit : split raw with
      | error e => exact ⟨e, rfl⟩
      | ok parts =>
          obtain ⟨c, -⟩ := cut_of_split hsplit
          exact absurd ⟨c⟩ hnone

end WorkItems.FrontMatter
