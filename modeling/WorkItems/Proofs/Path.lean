import WorkItems.Proofs.FileTree
import WorkItems.Proofs.Text.Pieces
/-!
# The components of paths

Paths are compared by their components, so several spellings are one path. The components are the
pieces between slashes that name something, behind what the start of the text says. A name put
behind a path is one component more, whatever form the path was given in, and so ways down by
different names are different paths.
-/

namespace WorkItems.Path

/-- What the start of a text says: that the path is absolute, or starts at the current directory. -/
def lead (cs : List Char) : List Component :=
  if cs.head? = some '/' then [.root]
  else if cs.take 2 = ['.'] ∨ cs.take 2 = ['.', '/'] then [.current]
  else []

theorem map_innerSteps {cs p : List Char} {ps : List (List Char)} (piece : List Char)
    (h : Text.pieces '/' cs = p :: ps) :
    (innerSteps piece cs).map (·.1) = ((piece.reverse ++ p) :: ps).filterMap ofPiece? := by
  induction cs generalizing piece p ps with
  | nil =>
      rw [Text.pieces] at h
      cases h
      rw [innerSteps, List.append_nil]
      cases hpiece : ofPiece? piece.reverse <;> simp [hpiece]
  | cons c cs ih =>
      cases hcs : Text.pieces '/' cs with
      | nil => exact absurd hcs (Text.pieces_ne_nil _ _)
      | cons q qs =>
          rw [Text.pieces, hcs] at h
          rw [innerSteps]
          split at h
          · rename_i hc
            cases h
            rw [hc, if_pos (beq_self_eq_true _), List.map_append, ih [] hcs, List.append_nil]
            cases hpiece : ofPiece? piece.reverse <;> simp [hpiece]
          · rename_i hc
            cases h
            rw [if_neg (by simpa using hc), ih (c :: piece) hcs, List.reverse_cons,
              List.append_assoc, List.singleton_append]

theorem map_innerSteps_nil (cs : List Char) :
    (innerSteps [] cs).map (·.1) = (Text.pieces '/' cs).filterMap ofPiece? := by
  cases hcs : Text.pieces '/' cs with
  | nil => exact absurd hcs (Text.pieces_ne_nil _ _)
  | cons p ps => rw [map_innerSteps [] hcs, List.reverse_nil, List.nil_append]

/-- The components are the pieces that name something, behind what the start of the text says. -/
theorem components_eq (p : Path) :
    p.components = lead p.text.toList ++ (Text.pieces '/' p.text.toList).filterMap ofPiece? := by
  rw [components]
  generalize p.text.toList = cs
  match cs with
  | [] => rfl
  | [c] =>
      by_cases hslash : c = '/'
      · rw [hslash]
        rfl
      · by_cases hdot : c = '.'
        · rw [hdot]
          rfl
        · rw [steps, map_innerSteps_nil] <;> simp [lead, hslash, hdot]
  | c :: d :: rest =>
      by_cases hslash : c = '/'
      · rw [hslash, steps, List.map_cons, map_innerSteps_nil, Text.pieces_cons_self]
        rfl
      · by_cases hdot : c = '.' ∧ d = '/'
        · rw [hdot.1, hdot.2, steps, List.map_cons, map_innerSteps_nil]
          rfl
        · rw [steps, map_innerSteps_nil] <;> simp_all [lead]

/-! ## Names behind a path -/

theorem ofPiece?_of_isFileName {name : String} (h : IsFileName name) :
    ofPiece? name.toList = some (.name name) := by
  have hne : ∀ text : String, name ≠ text → name.toList ≠ text.toList :=
    fun text h heq => h (String.toList_injective heq)
  have hempty : (name.toList.isEmpty || name.toList == ['.']) = false := by
    rw [Bool.or_eq_false_iff, beq_eq_false_iff_ne, List.isEmpty_eq_false_iff]
    exact ⟨hne "" h.ne_empty, hne "." h.ne_dot⟩
  have hdots : (name.toList == ['.', '.']) = false := beq_eq_false_iff_ne.2 (hne ".." h.ne_dots)
  rw [ofPiece?, hempty, hdots, String.ofList_toList]
  rfl

/-- What lies below a path comes behind a slash: one that is already there, or a new one. -/
theorem join_text_of_relative {p : Path} {child : String} (hp : p.text.toList ≠ [])
    (hchild : child.toList.head? ≠ some '/') :
    ∃ front, (p.join child).text.toList = front ++ '/' :: child.toList ∧
      (p.text.toList = front ∨ p.text.toList = front ++ ['/']) := by
  have hhead : (child.toList.head? == some '/') = false := beq_eq_false_iff_ne.2 hchild
  have hempty : p.text.isEmpty = false := by
    rw [Bool.eq_false_iff]
    exact fun h => hp (by rw [String.isEmpty_iff.1 h]; rfl)
  rw [Path.join, hhead, hempty, Bool.false_or, if_neg Bool.false_ne_true]
  split
  · rename_i hlast
    obtain ⟨front, hfront⟩ := List.getLast?_eq_some_iff.1 (beq_iff_eq.1 hlast)
    exact ⟨front, by simp [hfront], .inr hfront⟩
  · exact ⟨p.text.toList, by simp, .inl rfl⟩

theorem join_text {p : Path} {name : String} (hp : p.text.toList ≠ []) (hname : '/' ∉ name.toList) :
    ∃ front, (p.join name).text.toList = front ++ '/' :: name.toList ∧
      (p.text.toList = front ∨ p.text.toList = front ++ ['/']) :=
  join_text_of_relative hp fun h => hname (List.mem_of_head? h)

theorem join_ne_nil {p : Path} (hp : p.text.toList ≠ []) (child : String) :
    (p.join child).text.toList ≠ [] := by
  by_cases hslash : child.toList.head? = some '/'
  · rw [Path.join, if_pos (beq_iff_eq.2 hslash)]
    intro hnil
    rw [hnil] at hslash
    cases hslash
  · obtain ⟨front, htext, -⟩ := join_text_of_relative hp hslash
    rw [htext]
    exact List.append_ne_nil_of_right_ne_nil _ (List.cons_ne_nil _ _)

/-- What comes behind a slash does not change what the start of a text says. -/
theorem lead_append_slash {front whole : List Char} (rest : List Char)
    (h : whole = front ∨ whole = front ++ ['/']) (hne : whole ≠ []) :
    lead (front ++ '/' :: rest) = lead whole := by
  match front with
  | [] =>
      rcases h with rfl | rfl
      · exact absurd rfl hne
      · rfl
  | [c] => rcases h with rfl | rfl <;> by_cases hdot : c = '.' <;> simp [lead, hdot]
  | c :: d :: front => rcases h with rfl | rfl <;> simp [lead]

/--
What lies below a path has the components of the path and behind them those that its pieces are.
-/
theorem components_join_of_relative {p : Path} {child : String} (hp : p.text.toList ≠ [])
    (hchild : child.toList.head? ≠ some '/') : (p.join child).components =
      p.components ++ (Text.pieces '/' child.toList).filterMap ofPiece? := by
  obtain ⟨front, htext, hfront⟩ := join_text_of_relative hp hchild
  have hpieces : (Text.pieces '/' front).filterMap ofPiece? =
      (Text.pieces '/' p.text.toList).filterMap ofPiece? := by
    rcases hfront with heq | heq
    · rw [heq]
    · -- The piece behind the last slash is empty, so it names nothing.
      rw [heq, Text.pieces_append, List.filterMap_append]
      exact (List.append_nil _).symm
  rw [components_eq, components_eq, htext, lead_append_slash _ hfront hp, Text.pieces_append,
    List.filterMap_append, hpieces, List.append_assoc]

/-- A name behind a path is one component more. -/
theorem components_join {p : Path} {name : String} (hp : p.text.toList ≠ [])
    (hname : IsFileName name) : (p.join name).components = p.components ++ [.name name] := by
  rw [components_join_of_relative hp fun h => hname.noSlash (List.mem_of_head? h),
    Text.pieces_of_not_mem hname.noSlash, List.filterMap_cons_some (ofPiece?_of_isFileName hname)]
  rfl

/-- The names of a way down behind a path are its components behind those of the path. -/
theorem components_foldl_join {p : Path} {rest : Location} (hp : p.text.toList ≠ [])
    (hrest : ∀ name ∈ rest, IsFileName name) :
    (rest.foldl Path.join p).components = p.components ++ rest.map .name := by
  induction rest generalizing p with
  | nil => exact (List.append_nil _).symm
  | cons name rest ih =>
      obtain ⟨hname, hrest⟩ := List.forall_mem_cons.1 hrest
      rw [List.foldl_cons, ih (join_ne_nil hp name) hrest, components_join hp hname,
        List.append_assoc, List.map_cons, List.singleton_append]

end WorkItems.Path
