import WorkItems.Proofs.Text.Bytes
import WorkItems.Proofs.Yaml.BlockStyle
import WorkItems.Proofs.Yaml.PrintedStrings
/-!
# Tags

A tag is read as it was if it can be written at all: behind an exclamation mark, its characters are
written as they are or as the octets of UTF-8. Commas and brackets are the exception, as they are
written without an escape and end a tag where they are read.
-/

namespace WorkItems.Yaml

open Lexer

/-- A tag that is written so that it is read as it was. -/
structure IsWritable (tag : String) : Prop where
  ne_nil : tag.toList ≠ []
  noMark : tag.toList.head? ≠ some '!'
  chars : ∀ c ∈ tag.toList, c ≠ ',' ∧ c ≠ '[' ∧ c ≠ ']'

/-! ## Octets -/

/-- An octet as it is written in a tag. -/
def writtenOctet (o : UInt8) : List Char := '%' :: hexDigits 2 o.toNat

theorem length_writtenOctet (o : UInt8) : (writtenOctet o).length = 3 := by
  simp [writtenOctet, length_hexDigits]

section Octets

variable {o : Nat} (acc : List Char) (p : Position) (cs : List Char)

/-- An octet of a character, behind the octets in `pending`. -/
theorem tagChars_octet (pending : Option (Nat × Nat)) (h : o < 256) :
    tagChars false pending acc p (writtenOctet (.ofNat o) ++ cs) =
      match nextOctet? pending o with
      | none => .error .badTag
      | some (0, bits) => tagChars false none (Char.ofNat bits :: acc) (p.advance 3) cs
      | some (n + 1, bits) => tagChars false (some (n + 1, bits)) acc (p.advance 3) cs := by
  have hdigits : hexDigits 2 o =
      [Char.ofNat (if o / 16 % 16 < 10 then 48 + o / 16 % 16 else 55 + o / 16 % 16),
        Char.ofNat (if o % 16 < 10 then 48 + o % 16 else 55 + o % 16)] := by
    simp [hexDigits, List.range_succ]
  have hvalue : o / 16 % 16 * 16 + o % 16 = o := by omega
  rw [writtenOctet, UInt8.toNat_ofNat', Nat.mod_eq_of_lt h, hdigits, List.cons_append,
    List.cons_append, List.singleton_append, tagChars, hexDigit?_upper (Nat.mod_lt _ (by omega)),
    hexDigit?_upper (Nat.mod_lt _ (by omega))]
  rcases hnext : nextOctet? pending o with _ | ⟨_ | n, bits⟩
  all_goals simp only [hvalue, hnext]

/-- The only octet of a character of one octet. -/
theorem tagChars_single (h : o < 0x80) :
    tagChars false none acc p (writtenOctet (.ofNat o) ++ cs) =
      tagChars false none (Char.ofNat o :: acc) (p.advance 3) cs := by
  have hnext : nextOctet? none o = some (0, o) := by
    rw [nextOctet?, leadingOctet?, if_pos h]
  rw [tagChars_octet acc p cs none (by omega), hnext]

/-- The first of several octets. -/
theorem tagChars_leading {missing bits : Nat} (h : leadingOctet? o = some (missing + 1, bits)) :
    tagChars false none acc p (writtenOctet (.ofNat o) ++ cs) =
      tagChars false (some (missing + 1, bits)) acc (p.advance 3) cs := by
  have ho : o < 256 := by
    rw [leadingOctet?] at h
    repeat' split at h
    all_goals simp_all
    all_goals omega
  have hnext : nextOctet? none o = some (missing + 1, bits) := h
  rw [tagChars_octet acc p cs none ho, hnext]

theorem nextOctet?_further (missing bits : Nat) (h : o < 64) :
    nextOctet? (some (missing + 1, bits)) (o + 128) = some (missing, bits * 64 + o) := by
  have hlow : 0x80 ≤ o + 128 := by omega
  have hhigh : o + 128 < 0xC0 := by omega
  simp [nextOctet?, hlow, hhigh]

/-- A further octet that is not the last one. -/
theorem tagChars_further (missing bits : Nat) (h : o < 64) :
    tagChars false (some (missing + 2, bits)) acc p (writtenOctet (.ofNat (o + 128)) ++ cs) =
      tagChars false (some (missing + 1, bits * 64 + o)) acc (p.advance 3) cs := by
  rw [tagChars_octet acc p cs _ (by omega), nextOctet?_further (missing + 1) bits h]

theorem tagChars_last (bits : Nat) (h : o < 64) :
    tagChars false (some (1, bits)) acc p (writtenOctet (.ofNat (o + 128)) ++ cs) =
      tagChars false none (Char.ofNat (bits * 64 + o) :: acc) (p.advance 3) cs := by
  rw [tagChars_octet acc p cs _ (by omega), nextOctet?_further 0 bits h]

/-- The octets of a character are read as the character. -/
theorem tagChars_octets (c : Char) :
    tagChars false none acc p ((String.utf8EncodeChar c).flatMap writtenOctet ++ cs) =
      tagChars false none (c :: acc)
        (p.advance ((String.utf8EncodeChar c).flatMap writtenOctet).length) cs := by
  have hvalid : c.toNat < 0x110000 := by
    rcases c.valid with h | h
    · exact Nat.lt_trans h (by decide)
    · exact h.2
  have hc : c = Char.ofNat c.toNat := Char.ofNat_toNat c |>.symm
  have hval : c.val.toNat = c.toNat := rfl
  simp only [String.utf8EncodeChar, hval]
  generalize c.toNat = v at hvalid hc ⊢
  subst hc
  split
  · simp only [List.flatMap_cons, List.flatMap_nil, List.append_nil, length_writtenOctet]
    exact tagChars_single acc p cs (by omega)
  · split
    · have hlead : leadingOctet? (v / 64 % 32 + 192) = some (0 + 1, v / 64 % 32) := by
        rw [leadingOctet?, if_neg (by omega), if_pos (by simp; omega), Nat.add_sub_cancel]
      have hbits : v / 64 % 32 * 64 + v % 64 = v := by omega
      simp only [List.flatMap_cons, List.flatMap_nil, List.append_nil, List.append_assoc,
        List.length_append, length_writtenOctet]
      rw [tagChars_leading _ _ _ hlead, tagChars_last _ _ _ _ (by omega), hbits,
        Position.advance_advance]
    · split
      · have hlead : leadingOctet? (v / 4096 % 16 + 224) = some (1 + 1, v / 4096 % 16) := by
          rw [leadingOctet?, if_neg (by omega), if_neg (by simp), if_pos (by simp; omega),
            Nat.add_sub_cancel]
        have hbits : (v / 4096 % 16 * 64 + v / 64 % 64) * 64 + v % 64 = v := by omega
        simp only [List.flatMap_cons, List.flatMap_nil, List.append_nil, List.append_assoc,
          List.length_append, length_writtenOctet]
        rw [tagChars_leading _ _ _ hlead, tagChars_further _ _ _ _ _ (by omega),
          tagChars_last _ _ _ _ (by omega), hbits, Position.advance_advance,
          Position.advance_advance]
      · have hlead : leadingOctet? (v / 262144 % 8 + 240) = some (2 + 1, v / 262144 % 8) := by
          rw [leadingOctet?, if_neg (by omega), if_neg (by simp), if_neg (by simp),
            if_pos (by simp; omega), Nat.add_sub_cancel]
        have hbits : ((v / 262144 % 8 * 64 + v / 4096 % 64) * 64 + v / 64 % 64) * 64 + v % 64 =
            v := by
          omega
        simp only [List.flatMap_cons, List.flatMap_nil, List.append_nil, List.append_assoc,
          List.length_append, length_writtenOctet]
        rw [tagChars_leading _ _ _ hlead, tagChars_further _ _ _ _ _ (by omega),
          tagChars_further _ _ _ _ _ (by omega), tagChars_last _ _ _ _ (by omega), hbits,
          Position.advance_advance, Position.advance_advance, Position.advance_advance]

end Octets

/-! ## Characters -/

theorem isTagText_of_isWord {c : Char} (h : isWord c = true) : isTagText c = true := by
  have hpercent : c ≠ '%' := by
    rintro rfl
    exact absurd h (by decide)
  have hmark : c ≠ '!' := by
    rintro rfl
    exact absurd h (by decide)
  simp [isTagText, isTagChar, h, hpercent, hmark]

theorem tagEscaped_of_not {c : Char} (h : isTagText c = false) :
    tagEscaped c = (String.utf8EncodeChar c).flatMap writtenOctet := by
  rw [tagEscaped, h, if_neg (by simp), Text.toList_toUTF8_singleton]
  rfl

/-- What the name of a handle ends with is no character of it. -/
theorem isWord_tagEscaped {c : Char} (h : isWord c = false) :
    ∃ d ds, tagEscaped c = d :: ds ∧ isWord d = false ∧ d ≠ '!' ∧ d ≠ '<' := by
  cases htext : isTagText c with
  | true =>
      have hmark : c ≠ '!' := by
        rintro rfl
        exact absurd htext (by decide)
      have hangle : c ≠ '<' := by
        rintro rfl
        exact absurd htext (by decide)
      exact ⟨c, [], by rw [tagEscaped, htext, if_pos rfl], h, hmark, hangle⟩
  | false =>
      obtain ⟨o, os, hos⟩ := List.exists_cons_of_ne_nil (String.utf8EncodeChar_ne_nil (c := c))
      exact ⟨'%', _, by rw [tagEscaped_of_not htext, hos, List.flatMap_cons]; rfl,
        by decide, by decide, by decide⟩

section Tags

variable {ts tail : List Char}

theorem isWord_of_atGap (h : atGap tail = true) :
    ∀ c, tail.head? = some c → isTagChar false c = false ∧ c ≠ '%' ∧ c ≠ '!' := by
  intro c hc
  cases tail with
  | nil => cases hc
  | cons d ds =>
      obtain rfl : d = c := Option.some.inj hc
      simp only [atGap, isSpaceOrBreak, isSpace, isBreak, Bool.or_eq_true, beq_iff_eq] at h
      rcases h with (rfl | rfl) | ((((rfl | rfl) | rfl) | rfl) | rfl) <;> decide

/-- The tag is decoded up to a gap. -/
theorem tagChars_flatMap (h : ∀ c ∈ ts, c ≠ ',' ∧ c ≠ '[' ∧ c ≠ ']') (hgap : atGap tail = true) :
    ∀ (acc : List Char) (p : Position),
      tagChars false none acc p (ts.flatMap tagEscaped ++ tail) =
        .ok (acc.reverse ++ ts, ⟨p.advance (ts.flatMap tagEscaped).length, tail⟩) := by
  induction ts with
  | nil =>
      intro acc p
      rw [List.flatMap_nil, List.nil_append, List.append_nil]
      cases tail with
      | nil => rfl
      | cons c cs =>
          obtain ⟨hchar, hpercent, -⟩ := isWord_of_atGap hgap c rfl
          rw [tagChars.eq_2 _ _ _ _ _ _ fun _ _ _ hc => absurd hc hpercent]
          simp [hchar, hpercent, Position.advance_zero]
  | cons c cs ih =>
      intro acc p
      have hrest := ih fun d hd => h d (List.mem_cons_of_mem _ hd)
      rw [List.flatMap_cons, List.append_assoc, List.length_append, ← Position.advance_advance]
      cases htext : isTagText c with
      | true =>
          have hwritten : tagEscaped c = [c] := by rw [tagEscaped, htext, if_pos rfl]
          obtain ⟨hcomma, hopen, hclose⟩ := h c (List.mem_cons_self ..)
          simp only [isTagText, Bool.and_eq_true, bne_iff_ne] at htext
          have hchar : isTagChar false c = true := by
            have htrue := htext.1.1
            simp only [isTagChar, Bool.true_and] at htrue ⊢
            simpa [hcomma, hopen, hclose] using htrue
          rw [hwritten, List.singleton_append,
            tagChars.eq_2 _ _ _ _ _ _ fun _ _ _ hc => absurd hc htext.1.2]
          simp [htext.1.2, hchar, hrest]
      | false =>
          rw [tagEscaped_of_not htext, tagChars_octets, hrest]
          simp

/-- The name behind the exclamation mark. -/
theorem takeWhile_tagEscaped (hgap : atGap tail = true) :
    (ts.flatMap tagEscaped ++ tail).takeWhile isWord = ts.takeWhile isWord ∧
      (ts.flatMap tagEscaped ++ tail).dropWhile isWord =
        (ts.dropWhile isWord).flatMap tagEscaped ++ tail := by
  induction ts with
  | nil =>
      cases tail with
      | nil => exact ⟨rfl, rfl⟩
      | cons c cs =>
          have hword : isWord c = false := by
            have hchar := (isWord_of_atGap hgap c rfl).1
            simp only [isTagChar, Bool.or_eq_false_iff] at hchar
            exact hchar.1.1
          simp [hword]
  | cons c cs ih =>
      cases hword : isWord c with
      | true =>
          have hwritten : tagEscaped c = [c] := by
            rw [tagEscaped, isTagText_of_isWord hword, if_pos rfl]
          simp [hwritten, hword, ih.1, ih.2]
      | false =>
          obtain ⟨d, ds, hwritten, hd, -, -⟩ := isWord_tagEscaped hword
          simp [hwritten, hword, hd]

/-- The handle in front of a tag is the exclamation mark and the name behind it. -/
theorem handle_tag (hgap : atGap tail = true) (p : Position) :
    handle ⟨p, '!' :: (ts.flatMap tagEscaped ++ tail)⟩ =
      ('!' :: ts.takeWhile isWord,
        ⟨(p.advance 1).advance (ts.takeWhile isWord).length,
          (ts.dropWhile isWord).flatMap tagEscaped ++ tail⟩) := by
  obtain ⟨htake, hdrop⟩ := @takeWhile_tagEscaped ts tail hgap
  have hmark : ((ts.dropWhile isWord).flatMap tagEscaped ++ tail).head? ≠ some '!' := by
    cases hrest : ts.dropWhile isWord with
    | nil => exact fun hhead => (isWord_of_atGap hgap _ hhead).2.2 rfl
    | cons c cs =>
        have hword : isWord c = false := by
          have hhead := List.head?_dropWhile_not isWord ts
          rwa [hrest] at hhead
        obtain ⟨d, ds, hwritten, -, hd, -⟩ := isWord_tagEscaped hword
        simpa [hwritten] using hd
  simp only [handle, Cursor.skip, Cursor.takeWhile, List.drop_succ_cons, List.drop_zero, htake,
    hdrop, Cursor.peek?]
  rw [if_neg (by simpa using hmark)]

end Tags

/-- The text of a tag behind its exclamation mark does not start like a tag in angle brackets. -/
theorem head?_flatMap_tagEscaped {ts tail : List Char} (hne : ts ≠ []) :
    (ts.flatMap tagEscaped ++ tail).head? ≠ some '<' := by
  obtain ⟨c, cs, rfl⟩ := List.exists_cons_of_ne_nil hne
  cases hword : isWord c with
  | true =>
      have hangle : c ≠ '<' := by
        rintro rfl
        exact absurd hword (by decide)
      simpa [tagEscaped, isTagText_of_isWord hword] using hangle
  | false =>
      obtain ⟨d, ds, hwritten, -, -, hd⟩ := isWord_tagEscaped hword
      simpa [hwritten] using hd

theorem tagBody_eq {tag : String} (h : IsWritable tag) : tagBody tag = tag.toList := by
  obtain ⟨c, cs, hcs⟩ := List.exists_cons_of_ne_nil h.ne_nil
  have hmark : c ≠ '!' := by simpa [hcs] using h.noMark
  rw [tagBody, hcs]
  split
  · rename_i heq
    exact absurd (List.cons.inj heq).1 hmark
  · rfl

theorem writtenTag_eq {tag : String} (h : IsWritable tag) :
    writtenTag tag = '!' :: tag.toList.flatMap tagEscaped := by
  simp [writtenTag, tagBody_eq h, h.ne_nil]

theorem not_isFullHandle {name : List Char} (h : ∀ c ∈ name, isWord c = true) :
    isFullHandle ('!' :: name) = false := by
  cases hlast : name.getLast? with
  | none =>
      obtain rfl := List.getLast?_eq_none_iff.1 hlast
      rfl
  | some c =>
      have hmark : c ≠ '!' := by
        rintro rfl
        exact absurd (h _ (List.mem_of_getLast? hlast)) (by decide)
      simp [isFullHandle, List.getLast?_cons, hlast, hmark]

theorem length_flatMap_tagEscaped (ts : List Char) :
    (ts.flatMap tagEscaped).length =
      (ts.takeWhile isWord).length + ((ts.dropWhile isWord).flatMap tagEscaped).length := by
  obtain ⟨htake, hdrop⟩ := @takeWhile_tagEscaped ts [] rfl
  rw [List.append_nil] at htake hdrop
  rw [List.append_nil] at hdrop
  rw [← htake, ← hdrop, ← List.length_append, List.takeWhile_append_dropWhile]

/-- A written tag is read as it was. -/
theorem tagToken_writtenTag {tag : String} (h : IsWritable tag) {tail : List Char}
    (hgap : atGap tail = true) (p : Position) :
    tagToken false ⟨p, writtenTag tag ++ tail⟩ =
      .ok (.tag "!" tag, ⟨p.advance (writtenTag tag).length, tail⟩) := by
  have hangle := @head?_flatMap_tagEscaped tag.toList tail h.ne_nil
  have hhandle := @handle_tag tag.toList tail hgap p
  have hfull :=
    not_isFullHandle (List.all_eq_true.1 (List.all_takeWhile (p := isWord) (l := tag.toList)))
  have hread := tagChars_flatMap
    (fun c hc => h.chars c ((List.dropWhile_sublist isWord).mem hc)) hgap []
    ((p.advance 1).advance (tag.toList.takeWhile isWord).length)
  have htext : String.ofList (tag.toList.takeWhile isWord ++ tag.toList.dropWhile isWord) =
      tag := by
    rw [List.takeWhile_append_dropWhile, String.ofList_toList]
  have hne : tag.isEmpty = false := by
    rw [Bool.eq_false_iff, Ne, String.isEmpty_iff]
    rintro rfl
    exact h.ne_nil rfl
  rw [writtenTag_eq h, List.cons_append, List.length_cons, length_flatMap_tagEscaped]
  simp only [tagToken]
  split
  · rename_i heq
    rw [(List.cons.inj heq).2] at hangle
    exact absurd rfl hangle
  · simp only [hhandle, hfull, tagText, bind, Except.bind, hread, Bool.false_eq_true, if_false]
    simp only [List.isEmpty_cons, Bool.false_and, Bool.false_eq_true, if_false, List.reverse_nil,
      List.nil_append, List.drop_succ_cons, List.drop_zero, htext, hne, pure, Except.pure, hgap,
      Bool.true_or, if_true, Position.advance_advance]
    rw [Nat.add_comm (_ + _) 1, Nat.add_assoc]

theorem isInLine_of_le {first last c : Char} (hfirst : 0x20 ≤ first.toNat)
    (hlast : last.toNat ≤ 0x7E) (h : first.val ≤ c.val ∧ c.val ≤ last.val) : IsInLine c := by
  have hlow : first.toNat ≤ c.toNat := UInt32.le_iff_toNat_le.1 h.1
  have hhigh : c.toNat ≤ last.toNat := UInt32.le_iff_toNat_le.1 h.2
  exact isInLine_of_ascii (by omega) (by omega)

theorem isInLine_of_isWord {c : Char} (h : isWord c = true) : IsInLine c := by
  rcases Bool.or_eq_true_iff.1 h with h | h
  · rcases Bool.or_eq_true_iff.1 h with h | h
    · rcases Bool.or_eq_true_iff.1 h with h | h
      · rcases Bool.or_eq_true_iff.1 h with h | h
        · exact @isInLine_of_le 'A' 'Z' c (by decide) (by decide) (of_decide_eq_true h)
        · have hlower := Bool.and_eq_true_iff.1 h
          exact @isInLine_of_le 'a' 'z' c (by decide) (by decide)
            ⟨of_decide_eq_true hlower.1, of_decide_eq_true hlower.2⟩
      · have hdigit := Bool.and_eq_true_iff.1 h
        exact @isInLine_of_le '0' '9' c (by decide) (by decide)
          ⟨of_decide_eq_true hdigit.1, of_decide_eq_true hdigit.2⟩
    · rw [eq_of_beq h]
      decide
  · rw [eq_of_beq h]
    decide

theorem isInLine_tagEscaped (c : Char) : ∀ d ∈ tagEscaped c, IsInLine d := by
  cases htext : isTagText c with
  | true =>
      rw [tagEscaped, htext, if_pos rfl]
      simp only [isTagText, isTagChar, Bool.and_eq_true, Bool.or_eq_true] at htext
      rintro d hd
      obtain rfl := List.mem_singleton.1 hd
      rcases htext.1.1 with (hword | hmark) | hmark
      · exact isInLine_of_isWord hword
      · have hall : ∀ c ∈ ";/?:@&=+$.!~*'()".toList, IsInLine c := by decide
        exact hall d (by simpa using hmark)
      · have hall : ∀ c ∈ ",[]".toList, IsInLine c := by decide
        exact hall d (by simpa using hmark)
  | false =>
      rw [tagEscaped_of_not htext]
      intro d hd
      obtain ⟨o, -, ho⟩ := List.mem_flatMap.1 hd
      rcases List.mem_cons.1 ho with rfl | ho
      · decide
      · exact isInLine_hexDigits _ _ d ho

theorem isInLine_writtenTag {tag : String} (h : IsWritable tag) :
    ∀ c ∈ writtenTag tag, IsInLine c := by
  rw [writtenTag_eq h]
  refine List.forall_mem_cons.2 ⟨by decide, fun c hc => ?_⟩
  obtain ⟨d, -, hd⟩ := List.mem_flatMap.1 hc
  exact isInLine_tagEscaped d c hd

theorem length_tagEscaped (c : Char) : (tagEscaped c).length ≤ 3 * c.utf8Size := by
  cases htext : isTagText c with
  | true =>
      have hpos := c.utf8Size_pos
      rw [tagEscaped, htext, if_pos rfl, List.length_singleton]
      omega
  | false =>
      have hoctets : ∀ os : List UInt8, (os.flatMap writtenOctet).length = 3 * os.length := by
        intro os
        induction os with
        | nil => rfl
        | cons o os ih =>
            rw [List.flatMap_cons, List.length_append, length_writtenOctet, ih, List.length_cons]
            omega
      have hlength : (tagEscaped c).length = 3 * c.utf8Size := by
        rw [tagEscaped_of_not htext, hoctets, String.length_utf8EncodeChar]
      exact Nat.le_of_eq hlength

/-- A written tag has at most three characters for each octet of it. -/
theorem length_writtenTag {tag : String} (h : IsWritable tag) :
    (writtenTag tag).length ≤ 3 * byteCount ('!' :: tagBody tag) := by
  have hlength : ∀ cs : List Char,
      (cs.flatMap tagEscaped).length ≤ 3 * (String.ofList cs).utf8ByteSize := by
    intro cs
    induction cs with
    | nil => simp
    | cons c cs ih =>
        have hc := length_tagEscaped c
        rw [List.flatMap_cons, List.length_append, String.ofList_cons, String.utf8ByteSize_append,
          String.utf8ByteSize_singleton]
        omega
  have hbody := hlength tag.toList
  rw [byteCount, tagBody_eq h, writtenTag_eq h, String.ofList_cons, String.utf8ByteSize_append,
    String.utf8ByteSize_singleton, List.length_cons, show '!'.utf8Size = 1 from rfl]
  omega

/-! ## In front of what is tagged -/

section Tagged

variable {columns : List Nat} {key : Option SimpleKey} {keyAllowed : Bool} {reversed : List Token}
  {p : Position} {tag : String} {text : List Char} {ts : List Token}

theorem tokenHere_tag (hkey : Yields keyAllowed key) (h : IsWritable tag) {tail : List Char}
    (hgap : atGap tail = true) :
    tokenHere (keyed columns key keyAllowed reversed p (writtenTag tag ++ tail)) =
      .ok (keyed columns (keyBehind columns key keyAllowed reversed p) false
        (.tag "!" tag :: reversed) (p.advance (writtenTag tag).length) tail) := by
  have hkeyLike := @keyLike_keyed columns key keyAllowed reversed _ _ _ _ _ _ hkey
    (tagToken_writtenTag h hgap p)
  rw [← hkeyLike, writtenTag_eq h]
  simp [tokenHere, keyed, inBlock, inFlow, Cursor.atMarker, Yaml.atMarker]

theorem startsToken_writtenTag (h : IsWritable tag) : StartsToken (writtenTag tag) :=
  ⟨'!', _, writtenTag_eq h, by decide, by decide, by decide⟩

/-- The last thing of a line, behind a tag. -/
theorem EndsLine.tagged {parent : Nat} (h : EndsLine parent text ts) (htag : IsWritable tag) :
    EndsLine parent (writtenTag tag ++ ' ' :: text) (.tag "!" tag :: ts) := by
  refine ⟨(startsToken_writtenTag htag).inLine.append _, ?_⟩
  intro columns key keyAllowed reversed p n rest hkey hcolumns hp hn hopens
  have hbehind := hkey.keyBehind (ne_head_of_lt hcolumns hp) keyAllowed reversed
  have hdeeper : parent < ((p.advance (writtenTag tag).length).advance 1).column := by
    simp only [Position.advance]
    omega
  obtain ⟨key', hrefresh, hkey'⟩ :=
    refresh_optional (p := (p.advance (writtenTag tag).length).advance 1) hbehind
  obtain ⟨p', hp', hreach⟩ :=
    h.reaches false (.tag "!" tag :: reversed) hkey' hcolumns hdeeper hn hopens
  have hsettle := settle_space false (.tag "!" tag :: reversed)
    (h.starts.opens (List.replicate n ' ' ++ rest)) hrefresh
    (head?_le hcolumns (Nat.le_of_lt hdeeper))
  refine ⟨p', hp', ?_⟩
  rw [List.append_assoc, List.cons_append]
  refine Arrives.step ⟨_, hsettle, ?_⟩ (tokenHere_tag (hkey.yields keyAllowed) htag rfl) rfl ?_
  · simpa using hreach
  · have hpos := (startsToken_writtenTag htag).inLine.length_pos
    simp only [keyed, inBlock, List.length_append, List.length_cons]
    omega

/-- A key behind a tag: the key that is possible starts at the tag. -/
theorem IsKey.tagged (h : IsKey text ts) (hstarts : StartsInLine text) (htag : IsWritable tag) :
    IsKey (writtenTag tag ++ ' ' :: text) (.tag "!" tag :: ts) := by
  intro columns key keyAllowed reversed p k tail hyields hkey hstale hcolumns hgap
  have hadvance : ((p.advance (writtenTag tag).length).advance 1).advance text.length =
      p.advance (writtenTag tag ++ ' ' :: text).length := by
    rw [Position.advance_advance, Position.advance_advance, List.length_append, List.length_cons,
      Nat.add_comm 1]
  have hnear : isStale ((p.advance (writtenTag tag).length).advance 1) k = false := by
    rw [Position.advance_advance]
    exact isStale_advance hstale (by simp only [List.length_append, List.length_cons]; omega)
  have hcolumns' : ∀ n, columns.head? = some n →
      n ≤ ((p.advance (writtenTag tag).length).advance 1).column :=
    fun n hn => Nat.le_trans (hcolumns n hn) (by simp only [Position.advance]; omega)
  have hyields' : Yields false (some k) := by
    intro hallowed
    cases hallowed
  have hreach := @h columns (some k) false (.tag "!" tag :: reversed) _ k tail hyields' rfl
    (hadvance ▸ hstale) hcolumns' hgap
  have htoken := @tokenHere_tag columns key keyAllowed reversed p tag hyields htag
    (' ' :: (text ++ ':' :: tail)) rfl
  have hsettle := settle_space false (.tag "!" tag :: reversed) (hstarts.opens (':' :: tail))
    (refresh_of_not_stale hnear) hcolumns'
  rw [hkey] at htoken
  rw [hadvance] at hreach
  rw [List.append_assoc, List.cons_append]
  refine Arrives.step ⟨_, hsettle, ?_⟩ htoken rfl ?_
  · simpa using hreach
  · have hpos := (startsToken_writtenTag htag).inLine.length_pos
    simp only [keyed, inBlock, List.length_append, List.length_cons]
    omega

/-- A collection that starts on the line behind the one of its tag. -/
theorem ReadsBehind.tagged {spot : Spot}
    (h : ReadsBehind { spot with continuesLine := false } ('\n' :: text) ts)
    (htag : IsWritable tag) :
    ReadsBehind spot (' ' :: (writtenTag tag ++ '\n' :: text)) (.tag "!" tag :: ts) := by
  refine ⟨fun _ => rfl, ?_⟩
  intro columns key keyAllowed reversed p n rest hkey hcolumns hp hn hopens _
  have hdeeper : spot.indent < (p.advance 1).column := Nat.lt_succ_of_lt hp
  have hstarts := (startsToken_writtenTag htag).inLine
  obtain ⟨key', hrefresh, hkey'⟩ := refresh_optional (p := p.advance 1) hkey
  have hbehind : Optional ((p.advance 1).advance (writtenTag tag).length).line
      (keyBehind columns key' keyAllowed reversed (p.advance 1)) :=
    hkey'.keyBehind (ne_head_of_lt hcolumns hdeeper) keyAllowed reversed
  have hcolumn : spot.indent < ((p.advance 1).advance (writtenTag tag).length).column :=
    Nat.lt_of_lt_of_le hdeeper (Nat.le_add_right ..)
  obtain ⟨p', hp', harrives⟩ :=
    h.arrives false (.tag "!" tag :: reversed) hbehind hcolumns hcolumn hn
    hopens fun he => absurd he (by simp)
  have hsettle := settle_space keyAllowed reversed (hstarts.opens ('\n' :: text ++
    (List.replicate n ' ' ++ rest))) hrefresh (head?_le hcolumns (Nat.le_of_lt hdeeper))
  refine ⟨p', hp', ?_⟩
  rw [List.cons_append, List.append_assoc]
  refine ⟨_, hsettle, Arrives.step ?_ (tokenHere_tag (hkey'.yields keyAllowed) htag rfl) rfl ?_⟩
  · simpa using harrives
  · have hpos := hstarts.length_pos
    simp only [keyed, inBlock, List.length_append, List.length_cons]
    omega

end Tagged

end WorkItems.Yaml
