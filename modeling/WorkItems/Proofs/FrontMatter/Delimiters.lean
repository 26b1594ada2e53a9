import WorkItems.FrontMatter.Reader
import WorkItems.Proofs.Decimal.Layout
import WorkItems.Proofs.FrontMatter.Characters
import WorkItems.Proofs.Text.Lines
/-!
# Delimiters of a written document

The first line that is a delimiter closes the front matter, so a written document can be read only
if no line of its block is one. A delimiter starts with a dash and no line of the block does:

* the name of a core field starts with a letter,
* a text that starts with a dash is quoted, and so is one that holds a line feed,
* the lines of a mapping are moved to the right.
-/

namespace WorkItems

namespace FrontMatter

/-! ## Lines that cannot close a front matter -/

/-- A whole line that does not start with a dash. -/
def IsInnerLine (line : List Char) : Prop :=
  ∃ body, line = body ++ ['\n'] ∧ '\n' ∉ body ∧ body.head? ≠ some '-'

/-- A text of whole lines none of which starts with a dash. -/
def IsInner (cs : List Char) : Prop :=
  ∃ ls : List (List Char), cs = ls.flatten ∧ ∀ l ∈ ls, IsInnerLine l

theorem isDelimiterLine_of_isInnerLine {line : List Char} (h : IsInnerLine line) :
    isDelimiterLine line = false := by
  obtain ⟨body, rfl, -, hd⟩ := h
  rw [isDelimiterLine, beq_eq_false_iff_ne, Text.chomp_append_lineFeed]
  intro heq
  obtain ⟨tail, ht⟩ := Text.chomp_isPrefix body
  rw [heq] at ht
  exact hd (by rw [← ht]; rfl)

theorem IsInnerLine.isInner {line : List Char} (h : IsInnerLine line) : IsInner line :=
  ⟨[line], by simp, by simpa using h⟩

theorem isInner_nil : IsInner [] := ⟨[], rfl, by simp⟩

theorem IsInner.append {cs ds : List Char} (hc : IsInner cs) (hd : IsInner ds) :
    IsInner (cs ++ ds) := by
  obtain ⟨ls, rfl, hls⟩ := hc
  obtain ⟨ms, rfl, hms⟩ := hd
  refine ⟨ls ++ ms, by simp, fun l hl => ?_⟩
  exact (List.mem_append.1 hl).elim (hls l) (hms l)

theorem isInner_flatMap {α : Type} {f : α → List Char} :
    ∀ {xs : List α}, (∀ x ∈ xs, IsInner (f x)) → IsInner (xs.flatMap f)
  | [], _ => isInner_nil
  | x :: _, h =>
      (h x (List.mem_cons_self ..)).append
        (isInner_flatMap fun y hy => h y (List.mem_cons_of_mem _ hy))

/-- Inner lines are passed over, up to the delimiter behind them. -/
theorem upToClosing_of_isInner {cs : List Char} (h : IsInner cs) (body : List Char) :
    ∃ ls, ls.flatten = cs ∧
      upToClosing (Text.lines (cs ++ delimiter.toList ++ '\n' :: body)) =
        .ok (ls, Text.lines body) := by
  obtain ⟨ls, rfl, hls⟩ := h
  refine ⟨ls, rfl, ?_⟩
  induction ls with
  | nil =>
      rw [List.flatten_nil, List.nil_append, Text.lines_append_line (by decide)]
      rfl
  | cons l ls ih =>
      have hl := hls l (List.mem_cons_self ..)
      have hnot := isDelimiterLine_of_isInnerLine hl
      obtain ⟨line, rfl, hn, -⟩ := hl
      have hrest := ih fun m hm => hls m (List.mem_cons_of_mem _ hm)
      simp only [List.flatten_cons, List.append_assoc, List.cons_append, List.nil_append] at hrest ⊢
      rw [Text.lines_append_line hn, upToClosing, hnot, hrest]
      rfl

/-- A block of inner lines between two delimiters is cut out of the text as it is. -/
theorem split_of_isInner {block body : String} (h : IsInner block.toList) :
    split (delimiter ++ "\n" ++ block ++ delimiter ++ "\n" ++ body) = .ok (block, body) := by
  obtain ⟨ls, hls, hup⟩ := upToClosing_of_isInner h body.toList
  have hopen : afterOpening (Text.lines (delimiter.toList ++ '\n' ::
      (block.toList ++ delimiter.toList ++ '\n' :: body.toList))) =
      .ok (Text.lines (block.toList ++ delimiter.toList ++ '\n' :: body.toList)) := by
    rw [Text.lines_append_line (by decide)]
    rfl
  have htext : (delimiter ++ "\n" ++ block ++ delimiter ++ "\n" ++ body).toList =
      delimiter.toList ++ '\n' ::
        (block.toList ++ delimiter.toList ++ '\n' :: body.toList) := by
    simp [String.toList_append]
  simp only [split, htext, hopen, bind, Except.bind, hup, hls, Text.flatten_lines,
    String.ofList_toList]

/-! ## What is written on one line -/

/-- A text within a line. -/
def OneLine (s : String) : Prop := '\n' ∉ s.toList

theorem OneLine.append {s t : String} (hs : OneLine s) (ht : OneLine t) : OneLine (s ++ t) := by
  simpa [OneLine, String.toList_append] using ⟨hs, ht⟩

theorem oneLine_doubleQuoted (s : String) : OneLine (doubleQuoted s) := by
  have hchars : ∀ c ∈ (doubleQuoted s).toList, c ≠ '\n' := by
    refine forall_mem_doubleQuoted (fun c hlow _ hc => ?_) fun c _ hcontrol hc => ?_
    · exact absurd hlow (hc ▸ by decide)
    · exact absurd hcontrol (hc ▸ by decide)
  exact fun hmem => hchars _ hmem rfl

theorem oneLine_of_not_needsQuotes {s : String} (h : needsQuotes s = false) : OneLine s := by
  simp only [needsQuotes, Bool.or_eq_false_iff, List.any_eq_false] at h
  exact fun hmem => h.1.2 '\n' hmem (by decide)

theorem oneLine_coreText (s : String) : OneLine (coreText s) := by
  rw [coreText]
  split
  · exact oneLine_doubleQuoted s
  · rename_i h
    simp only [Bool.or_eq_true, not_or, Bool.not_eq_true] at h
    exact oneLine_of_not_needsQuotes h.1

theorem oneLine_fieldText (s : String) : OneLine (fieldText s) := by
  rw [fieldText]
  split
  · exact oneLine_doubleQuoted s
  · rename_i h
    simp only [Bool.or_eq_true, not_or, Bool.not_eq_true] at h
    exact oneLine_of_not_needsQuotes h.1

/-- What starts the line of a configurable field is no dash. -/
theorem head?_fieldText (s : String) : ∃ c, (fieldText s).toList.head? = some c ∧ c ≠ '-' := by
  rw [fieldText]
  split
  · exact ⟨'"', by simp [doubleQuoted], by decide⟩
  · rename_i h
    simp only [Bool.or_eq_true, not_or, Bool.not_eq_true] at h
    have hs := h.1
    simp only [needsQuotes, Bool.or_eq_false_iff, List.isEmpty_eq_false_iff] at hs
    obtain ⟨c, cs, hc⟩ := List.exists_cons_of_ne_nil hs.1.1.1
    refine ⟨c, by rw [hc]; rfl, ?_⟩
    rintro rfl
    have hlead : leadingIndicators.contains '-' = false := by simpa [hc] using hs.2
    exact absurd hlead (by decide)

theorem writes_numberLayout : numberLayout.Writes (· ≠ '\n') where
  digit c hc := by rintro rfl; exact absurd hc (by decide)
  minus := by decide
  point := by decide
  letter := by decide
  wholeEnd := by simp [numberLayout]
  exponentSign := by simp [numberLayout]
  nan := by simp [numberLayout]
  infinity := by simp [numberLayout]

theorem oneLine_numberText (n : Number) : OneLine (numberText n) := by
  have hdigit : ∀ c, Decimal.isDigit c = true → c ≠ '\n' := writes_numberLayout.digit
  cases n with
  | int i =>
      change '\n' ∉ (Decimal.intText i.toInt).toList
      rw [Decimal.intText, String.toList_ofList]
      exact fun h => Decimal.forall_mem_signed hdigit (by decide) _ _ h rfl
  | uint u =>
      change '\n' ∉ (Decimal.natText u.toNat).toList
      rw [Decimal.natText, String.toList_ofList]
      exact fun h => hdigit _ (Decimal.isDigit_of_mem_digits h) rfl
  | float x => exact fun h => writes_numberLayout.forall_mem_text x _ h rfl

theorem oneLine_inline (v : Value) : OneLine (inline v) := by
  have hne : ∀ {s : String}, OneLine s → Holds (· ≠ '\n') s := fun h c hc he => h (he ▸ hc)
  have hholds : Holds (· ≠ '\n') (inline v) :=
    (holds_inline (by decide)).2 (Value.fulfils_of_forall (fun s => hne (oneLine_fieldText s))
      (fun s => hne (oneLine_fieldText s)) (fun n => hne (oneLine_numberText n)) v)
  exact fun hmem => hholds _ hmem rfl

/-! ## Any emitter

A mapping of an item is written by `Yaml.Data.render`. That text is moved to the right before it
is put between the delimiters, so what it says does not matter: the rest is about any emitter. -/

/-- The lines of a configurable field, if `emit` writes the mappings. -/
def fieldLinesWith (emit : Value → String) (name : String) (value : Value) : String :=
  match value with
  | .mapping (_ :: _) => fieldText name ++ ":\n" ++ shifted (emit value)
  | _ => fieldText name ++ ": " ++ inline value ++ "\n"

/-- The lines between the delimiters, if `emit` writes the mappings. -/
def blockWith (emit : Value → String) (item : Item) : String :=
  String.join (CoreField.all.map (coreLine item)) ++
    String.join (item.fields.entries.map fun (name, value) => fieldLinesWith emit name value)

/-- A whole document, if `emit` writes the mappings. -/
def renderWith (emit : Value → String) (item : Item) (body : String) : String :=
  delimiter ++ "\n" ++ blockWith emit item ++ delimiter ++ "\n" ++ body

theorem fieldLines_eq (name : String) (value : Value) :
    fieldLines name value = fieldLinesWith (fun v => (toData v).render) name value := by
  cases value with
  | mapping entries => cases entries <;> rfl
  | _ => rfl

theorem render_eq (item : Item) (body : String) :
    render item body = renderWith (fun v => (toData v).render) item body := by
  simp only [render, renderWith, block, blockWith, fieldLines_eq]

/-- A line that starts with something else than a dash. -/
theorem isInnerLine_append {head tail : String} {c : Char} (hc : head.toList.head? = some c)
    (hne : c ≠ '-') (hhead : OneLine head) (htail : OneLine tail) :
    IsInnerLine (head ++ tail ++ "\n").toList := by
  refine ⟨(head ++ tail).toList, by simp [String.toList_append], hhead.append htail, ?_⟩
  rw [String.toList_append, List.head?_append, hc]
  simpa using hne

theorem isInnerLine_coreLine (item : Item) (field : CoreField) :
    IsInnerLine (coreLine item field).toList := by
  obtain ⟨c, hc, hne⟩ : ∃ c, field.name.toList.head? = some c ∧ c ≠ '-' := by
    cases field <;> exact ⟨_, rfl, by decide⟩
  have hname : OneLine field.name := by cases field <;> (simp only [OneLine]; decide)
  have hrest : OneLine (": " ++ coreText (item.core field)) :=
    OneLine.append (by simp [OneLine]) (oneLine_coreText _)
  simpa only [coreLine, String.append_assoc] using isInnerLine_append hc hne hname hrest

/-- A line that was moved to the right starts with a space. -/
theorem isInner_shifted (text : String) : IsInner (shifted text).toList := by
  rw [shifted, String.toList_ofList]
  refine isInner_flatMap fun line hline => IsInnerLine.isInner ?_
  refine ⟨' ' :: ' ' :: Text.chomp line, rfl, ?_, by simp⟩
  simpa using Text.not_mem_chomp_of_mem_lines hline

theorem isInner_fieldLinesWith (emit : Value → String) (name : String) (value : Value) :
    IsInner (fieldLinesWith emit name value).toList := by
  obtain ⟨c, hc, hne⟩ := head?_fieldText name
  have hname := oneLine_fieldText name
  unfold fieldLinesWith
  split
  · have hfirst : IsInnerLine (fieldText name ++ ":" ++ "\n").toList :=
      isInnerLine_append hc hne hname (by simp [OneLine])
    have htext : fieldText name ++ ":\n" = fieldText name ++ ":" ++ "\n" := by
      rw [String.append_assoc]
      rfl
    rw [htext, String.toList_append]
    exact hfirst.isInner.append (isInner_shifted _)
  · have hrest : OneLine (": " ++ inline value) :=
      OneLine.append (by simp [OneLine]) (oneLine_inline _)
    have hline := isInnerLine_append hc hne hname hrest
    simpa only [String.append_assoc] using hline.isInner

theorem isInner_blockWith (emit : Value → String) (item : Item) :
    IsInner (blockWith emit item).toList := by
  rw [blockWith, String.toList_append, String.toList_join, String.toList_join]
  refine IsInner.append (isInner_flatMap fun line hline => ?_)
    (isInner_flatMap fun lines hlines => ?_)
  · obtain ⟨field, -, rfl⟩ := List.mem_map.1 hline
    exact (isInnerLine_coreLine item field).isInner
  · obtain ⟨⟨name, value⟩, -, rfl⟩ := List.mem_map.1 hlines
    exact isInner_fieldLinesWith emit name value

/-- Reading an item does not complain about delimiters. -/
theorem readItem_error {block : String} {e : Error} (h : readItem block = .error e) :
    e ≠ .notOpened ∧ e ≠ .missing ∧ e ≠ .unclosed := by
  rw [readItem] at h
  split at h
  · cases h
  · split at h
    · cases h
      simp
    · cases h
    · split at h
      · cases h
        simp
      · cases h
    · cases h
      simp

/-- A written item is cut where it was put together. -/
theorem split_render (item : Item) (body : String) :
    split (render item body) = .ok (block item, body) := by
  have hblock : block item = blockWith (fun v => (toData v).render) item := by
    simp only [block, blockWith, fieldLines_eq]
  rw [render_eq, hblock]
  exact split_of_isInner (isInner_blockWith _ item)

/--
Nothing that an item holds is taken for a delimiter: a written document is cut where it was put
together, whatever text `emit` makes of mappings. Reading it back cannot fail for its delimiters,
and gives the body as it was.
-/
theorem split_renderWith (emit : Value → String) (item : Item) (body : String) :
    render item body = renderWith (fun v => (toData v).render) item body ∧
    split (renderWith emit item body) = .ok (blockWith emit item, body) ∧
    (∀ e, Document.ofText (renderWith emit item body) = .error e →
      e ≠ .notOpened ∧ e ≠ .missing ∧ e ≠ .unclosed) ∧
    ∀ d, Document.ofText (renderWith emit item body) = .ok d → d.body = body := by
  have hsplit : split (renderWith emit item body) = .ok (blockWith emit item, body) :=
    split_of_isInner (isInner_blockWith emit item)
  refine ⟨render_eq item body, hsplit, fun e he => ?_, fun d hd => ?_⟩
  · rw [Document.ofText, hsplit] at he
    cases hitem : readItem (blockWith emit item) with
    | error e' =>
        have heq : e' = e := by simpa [bind, Except.bind, hitem] using he
        exact heq ▸ readItem_error hitem
    | ok i => simp [bind, Except.bind, hitem] at he
  · rw [Document.ofText, hsplit] at hd
    cases hitem : readItem (blockWith emit item) with
    | error e' => simp [bind, Except.bind, hitem] at hd
    | ok i =>
        simp only [bind, Except.bind, hitem, Except.ok.injEq] at hd
        exact hd ▸ rfl

end FrontMatter
end WorkItems
