import WorkItems.Proofs.Yaml.BlockScalars
/-!
# Texts in block style

There are two kinds of texts: what stands behind an indicator (`ReadsBehind`), and the lines of a
collection from its first entry on (`ReadsLines`). Each is made of the other, as data and
collections are.
-/

namespace WorkItems.Yaml

open Lexer

/--
Behind an indicator at a spot, the text is read as these tokens. The line behind it starts in a
column that is not deeper than the collection around the spot.
-/
structure ReadsBehind (spot : Spot) (text : List Char) (ts : List Token) : Prop where
  atGap : ∀ tail, atGap (text ++ tail) = true
  arrives : ∀ {columns key} keyAllowed reversed {p n rest}, Optional p.line key →
    columns.head? = some spot.indent → spot.indent < p.column → n ≤ spot.indent → Opens rest →
    (spot.continuesLine = true → key = none ∧ keyAllowed = true ∧ p.column = spot.indent + 1) →
    ∃ p', p'.column = n ∧
      Arrives (keyed columns key keyAllowed reversed p (text ++ (List.replicate n ' ' ++ rest)))
        (landing columns true (ts.reverse ++ reversed) p' rest)

/--
In a column, the lines are read as these tokens, behind the token `t` if no collection is open in
that column.
-/
structure ReadsLines (t : Token) (column : Nat) (lines : List Char) (ts : List Token) : Prop where
  starts : StartsToken lines
  reaches : ∀ {columns} reversed {p n rest}, p.column = column →
    (∀ m, columns.head? = some m → m ≤ column) → n ≤ column → Opens rest →
    ∃ p', p'.column = n ∧
      Reaches (inBlock columns true reversed p (lines ++ (List.replicate n ' ' ++ rest)))
        (landing (opened columns reversed column t).1 true
          (ts.reverse ++ (opened columns reversed column t).2) p' rest)

/-! ## Behind an indicator -/

/-- A scalar on the rest of a line, or one that starts there. -/
theorem EndsLine.readsBehind (spot : Spot) {text : List Char} {ts : List Token}
    (h : EndsLine spot.indent text ts) : ReadsBehind spot (' ' :: text) ts := by
  refine ⟨fun _ => rfl, ?_⟩
  intro columns key keyAllowed reversed p n rest hkey hcolumns hp hn hopens _
  have hdeeper : spot.indent < (p.advance 1).column := Nat.lt_succ_of_lt hp
  obtain ⟨key', hrefresh, hkey'⟩ := refresh_optional (p := p.advance 1) hkey
  obtain ⟨p', hp', hreach⟩ := h.reaches keyAllowed reversed hkey' hcolumns hdeeper hn hopens
  exact ⟨p', hp', _, settle_space keyAllowed reversed (h.starts.opens _) hrefresh
    (head?_le hcolumns (Nat.le_of_lt hdeeper)), hreach⟩

section ReadsLines

variable {t : Token} {column : Nat} {lines : List Char} {ts : List Token} {spot : Spot}

/-- Lines that start on the next line. -/
theorem ReadsLines.nextLine {columns : List Nat} {key : Option SimpleKey} {p : Position} {n : Nat}
    {rest : List Char} (h : ReadsLines t column lines ts) (keyAllowed : Bool)
    (reversed : List Token)
    (hkey : Optional p.line key) (hcolumns : ∀ m, columns.head? = some m → m ≤ column)
    (hn : n ≤ column) (hopens : Opens rest) :
    ∃ p', p'.column = n ∧
      Arrives (keyed columns key keyAllowed reversed p
          ('\n' :: (pad column ++ lines) ++ (List.replicate n ' ' ++ rest)))
        (landing (opened columns reversed column t).1 true
          (ts.reverse ++ (opened columns reversed column t).2) p' rest) := by
  have hcolumn : ((p.newline 1).advance column).column = column := by
    simp [Position.advance, Position.newline]
  obtain ⟨p', hp', hreach⟩ := h.reaches reversed hcolumn hcolumns hn hopens
  have hgap := skipGap_nextLine (h.starts.opens (List.replicate n ' ' ++ rest)) keyAllowed p column
  refine ⟨p', hp', ?_⟩
  rw [List.cons_append, List.append_assoc]
  refine ⟨_, settle_keyed _ hgap (refresh_nextLine hkey (Nat.lt_succ_self _)), ?_⟩
  rw [landing_of_le (by rwa [hcolumn])]
  exact hreach

/-- A collection that continues the line of the indicator in front of it. -/
theorem ReadsLines.continued (spot : Spot) (h : ReadsLines t (spot.indent + 2) lines ts)
    (hspot : spot.continuesLine = true) :
    ReadsBehind spot (' ' :: lines) (t :: (ts ++ [.blockEnd])) := by
  refine ⟨fun _ => rfl, ?_⟩
  intro columns key keyAllowed reversed p n rest _ hcolumns hp hn hopens hcontinues
  obtain ⟨rfl, rfl, hcolumn⟩ := hcontinues hspot
  have hnext : (p.advance 1).column = spot.indent + 2 := by
    simp only [Position.advance]
    omega
  have hlt : ∀ m, columns.head? = some m → m < spot.indent + 2 := fun m hm =>
    Nat.lt_of_le_of_lt (head?_le hcolumns (Nat.le_refl _) m hm) (by omega)
  obtain ⟨p', hp', hreach⟩ := h.reaches reversed hnext (fun m hm => Nat.le_of_lt (hlt m hm))
    (by omega : n ≤ spot.indent + 2) hopens
  rw [opened_of_lt hlt, landing_closed (by omega)] at hreach
  have hgap := (skipGap_space false true p (lines ++ (List.replicate n ' ' ++ rest))).trans
    (skipGap_of_opens (h.starts.opens _) ..)
  refine ⟨p', hp', _, settle_gap _ _ hgap, ?_⟩
  rw [landing_of_le fun m hm => hnext ▸ Nat.le_of_lt (hlt m hm)]
  exact hreach

/-- A collection that starts on the next line, deeper than the one around it. -/
theorem ReadsLines.below (spot : Spot) (h : ReadsLines t (spot.indent + 2) lines ts) :
    ReadsBehind spot ('\n' :: (pad (spot.indent + 2) ++ lines)) (t :: (ts ++ [.blockEnd])) := by
  refine ⟨fun _ => rfl, ?_⟩
  intro columns key keyAllowed reversed p n rest hkey hcolumns hp hn hopens _
  have hlt : ∀ m, columns.head? = some m → m < spot.indent + 2 := fun m hm =>
    Nat.lt_of_le_of_lt (head?_le hcolumns (Nat.le_refl _) m hm) (by omega)
  obtain ⟨p', hp', hreach⟩ := h.nextLine keyAllowed reversed hkey
    (fun m hm => Nat.le_of_lt (hlt m hm)) (by omega : n ≤ spot.indent + 2) hopens
  rw [opened_of_lt hlt, landing_closed (by omega)] at hreach
  exact ⟨p', hp', hreach⟩

/-- A sequence in the column of the mapping around it. -/
theorem ReadsLines.indentless (spot : Spot) (h : ReadsLines t spot.indent lines ts) :
    ReadsBehind spot ('\n' :: (pad spot.indent ++ lines)) ts := by
  refine ⟨fun _ => rfl, ?_⟩
  intro columns key keyAllowed reversed p n rest hkey hcolumns hp hn hopens _
  obtain ⟨p', hp', hreach⟩ := h.nextLine keyAllowed reversed hkey
    (head?_le hcolumns (Nat.le_refl _)) hn hopens
  rw [opened_of_head? hcolumns] at hreach
  exact ⟨p', hp', hreach⟩

/-! ## Entries of a collection -/

/-- One entry below the other. -/
theorem ReadsLines.append {lines' : List Char} {us : List Token} (h : ReadsLines t column lines ts)
    (h' : ReadsLines t column lines' us) :
    ReadsLines t column (lines ++ (pad column ++ lines')) (ts ++ us) := by
  refine ⟨h.starts.append _, ?_⟩
  intro columns reversed p n rest hp hcolumns hn hopens
  have hhead := head?_opened reversed t hcolumns
  obtain ⟨q, hq, hreach⟩ := h.reaches reversed hp hcolumns (Nat.le_refl _)
    (h'.starts.opens (List.replicate n ' ' ++ rest))
  obtain ⟨p', hp', hreach'⟩ := h'.reaches (ts.reverse ++ (opened columns reversed column t).2) hq
    (head?_le hhead (Nat.le_refl _)) hn hopens
  rw [opened_of_head? hhead] at hreach'
  refine ⟨p', hp', ?_⟩
  rw [List.append_assoc, List.append_assoc]
  refine hreach.trans ?_
  rw [landing_of_le (head?_le hhead (Nat.le_of_eq hq.symm))]
  simpa using hreach'

variable {text : List Char}

/-- An item of a sequence. -/
theorem ReadsBehind.item {inMapping : Bool} (h : ReadsBehind ⟨column, true, inMapping⟩ text ts) :
    ReadsLines .blockSequenceStart column ('-' :: text) (.blockEntry :: ts) := by
  refine ⟨⟨'-', _, rfl, by decide, by decide⟩, ?_⟩
  intro columns reversed p n rest hp hcolumns hn hopens
  obtain ⟨p', hp', harrives⟩ := h.arrives true
    (.blockEntry :: (opened columns reversed column .blockSequenceStart).2) (p := p.advance 1)
    optional_none (head?_opened reversed _ hcolumns) (hp ▸ Nat.lt_succ_self _) hn hopens
    fun _ => ⟨rfl, rfl, congrArg (· + 1) hp⟩
  refine ⟨p', hp', ?_⟩
  have htoken := tokenHere_dash columns reversed p (h.atGap (List.replicate n ' ' ++ rest))
  rw [hp] at htoken
  refine Arrives.step ?_ htoken rfl (Nat.lt_succ_self _)
  simpa [keyed, inBlock] using harrives

/-- An entry of a mapping with its key in front of the colon. -/
theorem ReadsBehind.entry {key : List Char} {us : List Token} (hkey : IsKey key us)
    (hstarts : StartsToken key) (hlength : key.length ≤ 1024)
    (h : ReadsBehind ⟨column, false, true⟩ text ts) :
    ReadsLines .blockMappingStart column (key ++ ':' :: text) (.key :: (us ++ .value :: ts)) := by
  refine ⟨hstarts.append _, ?_⟩
  intro columns reversed p n rest hp hcolumns hn hopens
  have hpos := hstarts.inLine.length_pos
  have hdeeper : column < (p.advance (key.length + 1)).column := by
    simp only [Position.advance]
    omega
  obtain ⟨p', hp', harrives⟩ := h.arrives false
    (.value :: (us.reverse ++ .key :: (opened columns reversed column .blockMappingStart).2))
    optional_none (head?_opened reversed _ hcolumns) hdeeper hn hopens fun he => absurd he (by simp)
  refine ⟨p', hp', ?_⟩
  rw [List.append_assoc, List.cons_append]
  refine hkey.reaches hlength (hp ▸ hcolumns) (h.atGap _) ?_
  rw [hp]
  simpa [keyed, inBlock] using harrives

/-- An entry of a mapping with its key behind a question mark. -/
theorem ReadsBehind.explicitEntry {key : List Char} {us : List Token}
    (hkey : ReadsBehind ⟨column, true, true⟩ key us)
    (h : ReadsBehind ⟨column, true, true⟩ text ts) :
    ReadsLines .blockMappingStart column ('?' :: (key ++ (pad column ++ ':' :: text)))
      (.key :: (us ++ .value :: ts)) := by
  refine ⟨⟨'?', _, rfl, by decide, by decide⟩, ?_⟩
  intro columns reversed p n rest hp hcolumns hn hopens
  have hhead := head?_opened reversed .blockMappingStart hcolumns
  have hopens' : Opens (':' :: text ++ (List.replicate n ' ' ++ rest)) := opens_colon _
  obtain ⟨q, hq, harrives⟩ := hkey.arrives true
    (.key :: (opened columns reversed column .blockMappingStart).2) (p := p.advance 1)
    optional_none hhead (hp ▸ Nat.lt_succ_self _) (Nat.le_refl _) hopens'
    fun _ => ⟨rfl, rfl, congrArg (· + 1) hp⟩
  obtain ⟨p', hp', harrives'⟩ := h.arrives true
    (.value :: (us.reverse ++ .key :: (opened columns reversed column .blockMappingStart).2))
    (p := q.advance 1) optional_none hhead (hq ▸ Nat.lt_succ_self _) hn hopens
    fun _ => ⟨rfl, rfl, congrArg (· + 1) hq⟩
  refine ⟨p', hp', ?_⟩
  have hquestion := tokenHere_question columns reversed p
    (hkey.atGap (List.replicate column ' ' ++ (':' :: text ++ (List.replicate n ' ' ++ rest))))
  have hcolon := tokenHere_colon
    (us.reverse ++ .key :: (opened columns reversed column .blockMappingStart).2)
    (h.atGap (List.replicate n ' ' ++ rest)) (hhead.trans (congrArg some hq.symm))
  have htext : '?' :: (key ++ (pad column ++ ':' :: text)) ++ (List.replicate n ' ' ++ rest) =
      '?' :: (key ++ (List.replicate column ' ' ++
        (':' :: text ++ (List.replicate n ' ' ++ rest)))) := by
    simp [pad]
  rw [hp] at hquestion
  rw [htext]
  refine Arrives.step (harrives.trans ?_) hquestion rfl (Nat.lt_succ_self _)
  rw [landing_of_le (head?_le hhead (Nat.le_of_eq hq.symm))]
  refine Arrives.step ?_ hcolon rfl (Nat.lt_succ_self _)
  simpa [keyed, inBlock] using harrives'

end ReadsLines

end WorkItems.Yaml
