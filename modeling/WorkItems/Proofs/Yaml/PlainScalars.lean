import WorkItems.Yaml.Token.Flow
/-!
# What plain scalars are made of

Whatever text a plain scalar is read from, and whatever follows it: its characters come from that
text, apart from breaks that are folded, and there are no more of them than were read.
-/

namespace WorkItems.Yaml

/-! ## Characters -/

/-- The characters of a scalar under construction have a property. -/
structure AllChars (q : Char → Prop) (f : Folded) : Prop where
  text : ∀ c ∈ f.reversed, q c
  spaces : ∀ cs, f.gap = .spaces cs → ∀ c ∈ cs, q c
  breaks : ∀ first more, f.gap = .breaks first more → (∀ b, first = some b → q b) ∧ ∀ c ∈ more, q c

section AllChars

variable {q : Char → Prop} {f : Folded}

theorem allChars_empty : AllChars q .empty := ⟨by simp [Folded.empty], by simp [Folded.empty],
  by simp [Folded.empty]⟩

theorem AllChars.close (h : AllChars q f) (hspace : q ' ') : ∀ c ∈ f.close, q c := by
  intro c hc
  rw [Folded.close] at hc
  split at hc
  · exact h.text c hc
  · rename_i cs hgap
    rcases List.mem_append.1 hc with hc | hc
    · exact h.spaces cs hgap c hc
    · exact h.text c hc
  · rcases List.mem_cons.1 hc with rfl | hc
    · exact hspace
    · exact h.text c hc
  · rename_i more _ hgap
    rcases List.mem_append.1 hc with hc | hc
    · exact (h.breaks _ more hgap).2 c hc
    · exact h.text c hc
  · rename_i b more _ _ hgap
    rcases List.mem_append.1 hc with hc | hc
    · exact (h.breaks _ more hgap).2 c hc
    · rcases List.mem_cons.1 hc with rfl | hc
      · exact (h.breaks _ more hgap).1 _ rfl
      · exact h.text c hc
  · rename_i more hgap
    rcases List.mem_append.1 hc with hc | hc
    · exact (h.breaks _ more hgap).2 c hc
    · exact h.text c hc

theorem AllChars.addChar (h : AllChars q f) (hspace : q ' ') {c : Char} (hc : q c) :
    AllChars q (f.addChar c) := by
  refine ⟨fun d hd => ?_, by simp [Folded.addChar], by simp [Folded.addChar]⟩
  rcases List.mem_cons.1 hd with rfl | hd
  · exact hc
  · exact h.close hspace d hd

theorem AllChars.addSpace (h : AllChars q f) {c : Char} (hc : q c) :
    AllChars q (f.addSpace c) := by
  rw [Folded.addSpace]
  split
  · refine ⟨h.text, fun cs hcs d hd => ?_, by simp⟩
    obtain rfl := Gap.spaces.inj hcs
    obtain rfl : d = c := by simpa using hd
    exact hc
  · rename_i cs hgap
    refine ⟨h.text, fun ds hds d hd => ?_, by simp⟩
    obtain rfl := Gap.spaces.inj hds
    rcases List.mem_cons.1 hd with rfl | hd
    · exact hc
    · exact h.spaces cs hgap d hd
  · exact h

theorem AllChars.addBreak (h : AllChars q f) {b : Char} (hb : q b) : AllChars q (f.addBreak b) := by
  rw [Folded.addBreak]
  split
  · rename_i first more hgap
    obtain ⟨hfirst, hmore⟩ := h.breaks first more hgap
    refine ⟨h.text, by simp, fun first' more' heq => ?_⟩
    obtain ⟨rfl, rfl⟩ := Gap.breaks.inj heq
    refine ⟨hfirst, fun c hc => ?_⟩
    rcases List.mem_cons.1 hc with rfl | hc
    · exact hb
    · exact hmore c hc
  · refine ⟨h.text, by simp, fun first' more' heq => ?_⟩
    obtain ⟨rfl, rfl⟩ := Gap.breaks.inj heq
    exact ⟨fun c hc => Option.some.inj hc ▸ hb, by simp⟩

end AllChars

/-- What a plain scalar is made of, and what it leaves. -/
theorem plain_spec {q : Char → Prop} (hspace : q ' ') {inFlow : Bool} {indent : Nat} {f : Folded}
    {p : Position} {cs : List Char} {text : String} {onNewLine : Bool} {after : Cursor}
    (hf : AllChars q f) (hcs : ∀ c ∈ cs, if isBreak c then q (readBreak c) else q c)
    (h : plain inFlow indent f p cs = .ok (text, onNewLine, after)) :
    after.rest <:+ cs ∧ ∀ c ∈ text.toList, q c := by
  have hend : ∀ {f : Folded} {p : Position} {cs : List Char}, AllChars q f →
      Except.ok (endPlain f p cs) = (.ok (text, onNewLine, after) : Except Error PlainEnd) →
      after.rest <:+ cs ∧ ∀ c ∈ text.toList, q c := by
    intro f p cs hf heq
    cases heq
    exact ⟨List.suffix_refl _, by simpa [Folded.text] using hf.text⟩
  have hmem : ∀ {c : Char} {cs : List Char},
      (∀ d ∈ c :: cs, if isBreak d then q (readBreak d) else q d) →
        ∀ d ∈ cs, if isBreak d then q (readBreak d) else q d :=
    fun hcs d hd => hcs d (List.mem_cons_of_mem _ hd)
  fun_induction plain inFlow indent f p cs with
  | case1 => exact hend hf h
  | case2 f p cs ih =>
      have hbreak : q '\n' := by simpa [isBreak, readBreak] using hcs '\r' (by simp)
      obtain ⟨hsuffix, htext⟩ := ih (hf.addBreak hbreak) (hmem (hmem hcs)) h
      exact ⟨hsuffix.trans ((List.suffix_cons ..).trans (List.suffix_cons ..)), htext⟩
  | case3 => cases h
  | case4 f p c cs _ hspace' _ ih =>
      have hc := hcs c (List.mem_cons_self ..)
      have hbreak : isBreak c = false := by
        simp only [isSpace, Bool.or_eq_true, beq_iff_eq] at hspace'
        rcases hspace' with rfl | rfl <;> decide
      rw [hbreak] at hc
      obtain ⟨hsuffix, htext⟩ := ih (hf.addSpace hc) (hmem hcs) h
      exact ⟨hsuffix.trans (List.suffix_cons ..), htext⟩
  | case5 f p c cs _ _ hbreak ih =>
      have hc := hcs c (List.mem_cons_self ..)
      rw [hbreak] at hc
      obtain ⟨hsuffix, htext⟩ := ih (hf.addBreak hc) (hmem hcs) h
      exact ⟨hsuffix.trans (List.suffix_cons ..), htext⟩
  | case6 => exact hend hf h
  | case7 => cases h
  | case8 => exact hend hf h
  | case9 f p c cs _ _ hbreak _ _ _ ih =>
      have hc := hcs c (List.mem_cons_self ..)
      rw [Bool.not_eq_true] at hbreak
      rw [hbreak] at hc
      obtain ⟨hsuffix, htext⟩ := ih (hf.addChar hspace hc) (hmem hcs) h
      exact ⟨hsuffix.trans (List.suffix_cons ..), htext⟩

/-! ## Length -/

/-- How long the text of a scalar under construction is with its gap, if no break is folded. -/
def Folded.size (f : Folded) : Nat :=
  f.reversed.length +
    match f.gap with
    | .none => 0
    | .spaces cs => cs.length
    | .breaks first more => first.toList.length + more.length

theorem Folded.length_close_le (f : Folded) : f.close.length ≤ f.size := by
  rw [Folded.close, Folded.size]
  split <;> rename_i hgap <;> simp [hgap] <;> omega

theorem Folded.size_addChar_le (f : Folded) (c : Char) : (f.addChar c).size ≤ f.size + 1 :=
  Nat.succ_le_succ f.length_close_le

theorem Folded.size_addSpace_le (f : Folded) (c : Char) : (f.addSpace c).size ≤ f.size + 1 := by
  rw [Folded.addSpace]
  split
  · rename_i hgap
    simp [Folded.size, hgap]
  · rename_i hgap
    simp only [Folded.size, hgap, List.length_cons]
    omega
  · exact Nat.le_succ _

theorem Folded.size_addBreak_le (f : Folded) (b : Char) : (f.addBreak b).size ≤ f.size + 1 := by
  rw [Folded.addBreak]
  split
  · rename_i hgap
    simp only [Folded.size, hgap, List.length_cons]
    omega
  · simp [Folded.size]

/-- A plain scalar is no longer than what is read of it. -/
theorem length_plain {inFlow : Bool} {indent : Nat} {f : Folded}
    {p : Position} {cs : List Char} {text : String} {onNewLine : Bool} {after : Cursor}
    (h : plain inFlow indent f p cs = .ok (text, onNewLine, after)) :
    text.toList.length ≤ f.size + cs.length := by
  have hend : ∀ {f : Folded} {p : Position} {cs : List Char},
      Except.ok (endPlain f p cs) = (.ok (text, onNewLine, after) : Except Error PlainEnd) →
      text.toList.length ≤ f.size + cs.length := by
    intro f p cs heq
    cases heq
    simp only [Folded.text, String.toList_ofList, List.length_reverse, Folded.size]
    omega
  fun_induction plain inFlow indent f p cs with
  | case1 => exact hend h
  | case2 f p cs ih =>
      have hsize := f.size_addBreak_le '\n'
      have hlength := ih h
      simp only [List.length_cons]
      omega
  | case3 => cases h
  | case4 f p c cs _ _ _ ih =>
      have hsize := f.size_addSpace_le c
      have hlength := ih h
      simp only [List.length_cons]
      omega
  | case5 f p c cs _ _ _ ih =>
      have hsize := f.size_addBreak_le (readBreak c)
      have hlength := ih h
      simp only [List.length_cons]
      omega
  | case6 => exact hend h
  | case7 => cases h
  | case8 => exact hend h
  | case9 f p c cs _ _ _ _ _ _ ih =>
      have hsize := f.size_addChar_le c
      have hlength := ih h
      simp only [List.length_cons]
      omega

end WorkItems.Yaml
