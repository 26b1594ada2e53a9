import WorkItems.Proofs.FrontMatter.Quoting
/-!
# Text between double quotes

A text between double quotes ends where it seems to, and is what it was. Every character is written
as a piece of its own (`Piece`): an escape with one letter, an escape with two digits, or the
character itself. So reading from left to right never loses count: a piece that starts with a
backslash is taken whole, every other piece is a single character, and what stands behind a piece
has no part in it. This is why a run of backslashes before a quote cannot be misread, and neither
can digits that follow the two digits of an escape.

The readers here are as plain as can be. `unescape?` knows the escapes that are written and no
other, and `cutAtQuote?` knows none at all: it only skips the character behind a backslash.
-/

namespace WorkItems.FrontMatter

open Yaml (hexDigit?)

/-! ## Reading -/

/-- The character that a letter behind a backslash stands for. -/
def ofLetter? : Char → Option Char
  | '\\' => some '\\'
  | '"' => some '"'
  | 'n' => some '\n'
  | 'r' => some '\r'
  | 't' => some '\t'
  | _ => none

/--
Reads what stands between double quotes from left to right. A quote cannot stand there by itself.
-/
def unescape? : List Char → Option (List Char)
  | [] => some []
  | '\\' :: 'x' :: high :: low :: rest =>
    match hexDigit? high, hexDigit? low with
    | some m, some n => (unescape? rest).map (Char.ofNat (m * 16 + n) :: ·)
    | _, _ => none
  | '\\' :: letter :: rest =>
    match ofLetter? letter with
    | some c => (unescape? rest).map (c :: ·)
    | none => none
  | c :: rest => if c = '\\' ∨ c = '"' then none else (unescape? rest).map (c :: ·)

/--
Cuts a text at its first double quote. The character behind a backslash is none, whatever it is.
-/
def cutAtQuote? : List Char → Option (List Char × List Char)
  | [] => none
  | '\\' :: c :: rest =>
      (cutAtQuote? rest).map fun (before, behind) => ('\\' :: c :: before, behind)
  | c :: rest =>
    if c = '"' then some ([], rest)
    else (cutAtQuote? rest).map fun (before, behind) => (c :: before, behind)

/-- How many backslashes a text ends with. -/
def closingSlashes (cs : List Char) : Nat := (cs.reverse.takeWhile (· == '\\')).length

/--
The next character behind such a text is escaped. Of the backslashes that the text ends with, the
first escapes the second, the third the fourth, and so on; an odd one escapes what comes next.
-/
def EndsInEscape (cs : List Char) : Prop := closingSlashes cs % 2 = 1

/-! ## Pieces -/

/-- The piece of text that a character is written as. -/
inductive Piece : Char → List Char → Prop where
  | letter {c l : Char} : ofLetter? l = some c → Piece c ['\\', l]
  | number {high low : Char} {m n : Nat} : hexDigit? high = some m → hexDigit? low = some n →
      Piece (Char.ofNat (m * 16 + n)) ['\\', 'x', high, low]
  | self {c : Char} : c ≠ '\\' → c ≠ '"' → Piece c [c]

theorem piece_escapeChar (c : Char) : Piece c (escapeChar c) := by
  rw [escapeChar]
  iterate 5
    split
    · rename_i hc
      exact .letter (by rw [hc]; rfl)
  split
  · rename_i hcontrol
    simp only [Text.isControl, Bool.or_eq_true, Bool.and_eq_true, decide_eq_true_eq] at hcontrol
    have hhigh := hexDigit?_hexChar (d := c.toNat / 16) (by omega)
    have hlow := hexDigit?_hexChar (d := c.toNat % 16) (by omega)
    have hpiece := Piece.number hhigh hlow
    rwa [Nat.div_add_mod', Char.ofNat_toNat] at hpiece
  · rename_i hslash hquote _ _ _ _
    exact .self hslash hquote

theorem ne_of_hexDigit? {c : Char} {n : Nat} (h : hexDigit? c = some n) : c ≠ '\\' ∧ c ≠ '"' := by
  constructor
  · rintro rfl
    cases h
  · rintro rfl
    cases h

theorem closingSlashes_concat (cs : List Char) {c : Char} (h : c ≠ '\\') :
    closingSlashes (cs ++ [c]) = 0 := by
  rw [closingSlashes, List.reverse_concat, List.takeWhile_cons_of_neg (by simpa using h)]
  rfl

/-- Backslashes before a text count for its own only in pairs if they come in pairs. -/
theorem closingSlashes_append {front cs : List Char} (h : closingSlashes front % 2 = 0) :
    closingSlashes (front ++ cs) % 2 = closingSlashes cs % 2 := by
  rw [closingSlashes, List.reverse_append, List.takeWhile_append]
  split
  · rename_i hall
    have hsum : (cs.reverse ++ front.reverse.takeWhile (· == '\\')).length =
        closingSlashes cs + closingSlashes front := by
      rw [List.length_append, ← hall]
      rfl
    rw [hsum]
    omega
  · rfl

namespace Piece

variable {c : Char} {piece rest : List Char}

/-- A piece is read as its character, whatever stands behind it. -/
theorem unescape?_append (h : Piece c piece) :
    unescape? (piece ++ rest) = (unescape? rest).map (c :: ·) := by
  cases h with
  | @letter _ l hletter =>
      have hx : l ≠ 'x' := by
        rintro rfl
        cases hletter
      show unescape? ('\\' :: l :: rest) = _
      rw [unescape?, hletter]
      intro _ _ _ hl
      exact absurd hl hx
  | number hhigh hlow =>
      show unescape? ('\\' :: 'x' :: _ :: _ :: rest) = _
      rw [unescape?, hhigh, hlow]
  | self hslash hquote =>
      show unescape? (c :: rest) = _
      rw [unescape?, if_neg (not_or.2 ⟨hslash, hquote⟩)]
      · intro _ _ _ hc
        exact absurd hc hslash
      · intro _ _ hc
        exact absurd hc hslash

theorem cutAtQuote?_cons (hslash : c ≠ '\\') (hquote : c ≠ '"') :
    cutAtQuote? (c :: rest) =
      (cutAtQuote? rest).map fun (before, behind) => (c :: before, behind) := by
  rw [cutAtQuote?, if_neg hquote]
  intro _ _ hc
  exact absurd hc hslash

/-- No piece is cut apart. -/
theorem cutAtQuote?_append (h : Piece c piece) :
    cutAtQuote? (piece ++ rest) =
      (cutAtQuote? rest).map fun (before, behind) => (piece ++ before, behind) := by
  cases h with
  | letter =>
      show cutAtQuote? ('\\' :: _ :: rest) = _
      rw [cutAtQuote?]
      rfl
  | number hhigh hlow =>
      obtain ⟨hslash, hquote⟩ := ne_of_hexDigit? hhigh
      obtain ⟨hslash', hquote'⟩ := ne_of_hexDigit? hlow
      show cutAtQuote? ('\\' :: 'x' :: _ :: _ :: rest) = _
      rw [cutAtQuote?, cutAtQuote?_cons hslash hquote, cutAtQuote?_cons hslash' hquote',
        Option.map_map, Option.map_map]
      rfl
  | self hslash hquote => exact cutAtQuote?_cons hslash hquote

/-- A piece ends in no backslash, or in one with the backslash that escapes it. -/
theorem closingSlashes_even (h : Piece c piece) : closingSlashes piece % 2 = 0 := by
  cases h with
  | @letter _ l =>
      by_cases hl : l = '\\'
      · rw [hl]
        rfl
      · exact congrArg (· % 2) (closingSlashes_concat ['\\'] hl)
  | @number _ low _ _ _ hlow =>
      exact congrArg (· % 2) (closingSlashes_concat ['\\', 'x', _] (ne_of_hexDigit? hlow).1)
  | self hslash => exact congrArg (· % 2) (closingSlashes_concat [] hslash)

/-- A quote within a piece is the one that a backslash escapes. -/
theorem endsInEscape (h : Piece c piece) {before behind : List Char}
    (hquote : piece = before ++ '"' :: behind) : EndsInEscape before := by
  have hmem : '"' ∈ piece := by
    rw [hquote]
    exact List.mem_append_right before (List.mem_cons_self ..)
  cases h with
  | letter =>
      cases before with
      | nil => cases hquote
      | cons b before =>
          obtain ⟨rfl, htail⟩ := List.cons_eq_cons.1 hquote
          cases before with
          | nil => rfl
          | cons b before =>
              have hlength := congrArg List.length htail
              simp at hlength
  | number hhigh hlow =>
      simp only [List.mem_cons, List.not_mem_nil, or_false] at hmem
      rcases hmem with hc | hc | hc | hc
      · cases hc
      · cases hc
      · exact absurd hc.symm (ne_of_hexDigit? hhigh).2
      · exact absurd hc.symm (ne_of_hexDigit? hlow).2
  | self _ hne => exact absurd (List.mem_singleton.1 hmem).symm hne

end Piece

/-! ## Whole texts -/

theorem escape_cons (c : Char) (cs : List Char) : escape (c :: cs) = escapeChar c ++ escape cs :=
  rfl

theorem unescape?_escape (cs : List Char) : unescape? (escape cs) = some cs := by
  induction cs with
  | nil => rfl
  | cons c cs ih => rw [escape_cons, (piece_escapeChar c).unescape?_append, ih, Option.map_some]

theorem cutAtQuote?_escape (cs rest : List Char) :
    cutAtQuote? (escape cs ++ '"' :: rest) = some (escape cs, rest) := by
  induction cs with
  | nil => rfl
  | cons c cs ih =>
      rw [escape_cons, List.append_assoc, (piece_escapeChar c).cutAtQuote?_append, ih,
        Option.map_some]

theorem closingSlashes_escape (cs : List Char) : closingSlashes (escape cs) % 2 = 0 := by
  induction cs with
  | nil => rfl
  | cons c cs ih =>
      rw [escape_cons, closingSlashes_append (piece_escapeChar c).closingSlashes_even, ih]

/--
Every quote among the pieces is escaped: it lies within one of them, and those before it keep their
parity.
-/
theorem endsInEscape_of_escape {cs before behind : List Char}
    (h : escape cs = before ++ '"' :: behind) : EndsInEscape before := by
  induction cs generalizing before with
  | nil =>
      rw [escape, List.flatMap_nil] at h
      exact absurd h (by simp)
  | cons c cs ih =>
      rw [escape_cons] at h
      rcases List.append_eq_append_iff.1 h with ⟨rest, rfl, hrest⟩ | ⟨rest, hpiece, hrest⟩
      · rw [EndsInEscape, closingSlashes_append (piece_escapeChar c).closingSlashes_even]
        exact ih hrest
      · cases rest with
        | nil =>
            rw [List.append_nil] at hpiece
            rw [EndsInEscape, ← hpiece, ← List.append_nil (escapeChar c),
              closingSlashes_append (piece_escapeChar c).closingSlashes_even]
            exact @ih [] hrest.symm
        | cons d rest =>
            obtain ⟨rfl, -⟩ := List.cons_eq_cons.1 hrest
            exact (piece_escapeChar c).endsInEscape hpiece

theorem not_isControl_of_mem_escape {cs : List Char} {c : Char} (h : c ∈ escape cs) :
    Text.isControl c = false := by
  have hascii : ∀ d : Char, 0x20 ≤ d.toNat → d.toNat ≤ 0x7E → Text.isControl d = false := by
    intro d hlow hhigh
    simp only [Text.isControl, Bool.or_eq_false_iff, Bool.and_eq_false_iff, decide_eq_false_iff_not]
    omega
  obtain ⟨d, -, hmem⟩ := List.mem_flatMap.1 h
  exact forall_mem_escapeChar hascii id c hmem

theorem toList_doubleQuoted_append (s rest : String) :
    (doubleQuoted s ++ rest).toList = '"' :: (escape s.toList ++ '"' :: rest.toList) := by
  simp [doubleQuoted]

/-- Where one text in double quotes ends and what it is does not depend on what stands behind it. -/
theorem eq_of_doubleQuoted_append {s t rest rest' : String}
    (h : doubleQuoted s ++ rest = doubleQuoted t ++ rest') : s = t ∧ rest = rest' := by
  have hchars := congrArg String.toList h
  rw [toList_doubleQuoted_append, toList_doubleQuoted_append] at hchars
  have hcut := congrArg cutAtQuote? (List.cons.inj hchars).2
  rw [cutAtQuote?_escape, cutAtQuote?_escape] at hcut
  obtain ⟨hinner, hrest⟩ := Prod.mk.inj (Option.some.inj hcut)
  have hread := congrArg unescape? hinner
  rw [unescape?_escape, unescape?_escape] at hread
  exact ⟨String.toList_injective (Option.some.inj hread), String.toList_injective hrest⟩

/--
A text in double quotes is a quote, an inner text, and a quote. The inner text has no control
character, and every quote in it is escaped, while the quote behind it is not; so a search for the
closing quote finds the last character, whatever stands behind that. Reading the inner text gives
the text back. So different texts differ in double quotes, and none of them starts another one.
-/
theorem doubleQuoted_lossless (s : String) :
    ∃ inner, (doubleQuoted s).toList = '"' :: (inner ++ ['"']) ∧
      (∀ c ∈ inner, 0x20 ≤ c.toNat ∧ (c.toNat < 0x7F ∨ 0x9F < c.toNat)) ∧
      (∀ before behind, inner = before ++ '"' :: behind → EndsInEscape before) ∧
      ¬EndsInEscape inner ∧
      (∀ rest, cutAtQuote? (inner ++ '"' :: rest) = some (inner, rest)) ∧
      unescape? inner = some s.toList ∧
      (∀ t, doubleQuoted t = doubleQuoted s → t = s) ∧
      ∀ t rest rest', doubleQuoted t ++ rest = doubleQuoted s ++ rest' → t = s ∧ rest = rest' := by
  refine ⟨escape s.toList, ?_, ?_, ?_, ?_, ?_, ?_, ?_, ?_⟩
  · rw [doubleQuoted, String.toList_ofList, List.cons_append]
  · intro c hc
    have hcontrol := not_isControl_of_mem_escape hc
    simp only [Text.isControl, Bool.or_eq_false_iff, Bool.and_eq_false_iff,
      decide_eq_false_iff_not] at hcontrol
    omega
  · intro before behind h
    exact endsInEscape_of_escape h
  · intro hends
    rw [EndsInEscape, closingSlashes_escape] at hends
    cases hends
  · intro rest
    exact cutAtQuote?_escape s.toList rest
  · exact unescape?_escape s.toList
  · intro t h
    have happend : doubleQuoted t ++ "" = doubleQuoted s ++ "" := by rw [h]
    exact (eq_of_doubleQuoted_append happend).1
  · intro t rest rest' h
    exact eq_of_doubleQuoted_append h

end WorkItems.FrontMatter
