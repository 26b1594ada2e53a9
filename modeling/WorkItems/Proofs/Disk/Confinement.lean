import WorkItems.Disk.Confinement
import WorkItems.Proofs.Disk.Making
import WorkItems.Proofs.Text.Cuts
/-!
# Places inside of a project

Where a path leads can be told from its components without following it: to the place that they
denote, if everything on the way is a directory (`Disk.LeadsTo`). A path to something new denotes a
place in the same way, but its last component need not be there yet (`Disk.Denotes`).

The place that is found for a path inside of a project is the one that the path denotes. It is told
by names alone, and it lies below the place of the root by whole names, whatever `..` the path takes
on its way.
-/

namespace WorkItems

namespace Path

/-- Whether the text asks for a directory: behind its last slash there is nothing, or a dot. -/
def AsksDirectory (p : Path) : Prop :=
  ∃ piece, (Text.pieces '/' p.text.toList).getLast? = some piece ∧ ofPiece? piece = none

/-- What a piece names: nothing, the directory around, or an entry. -/
theorem ofPiece?_cases (piece : List Char) :
    (piece = [] ∨ piece = ['.']) ∧ ofPiece? piece = none ∨
      piece = ['.', '.'] ∧ ofPiece? piece = some .parent ∨
      ¬(piece = [] ∨ piece = ['.']) ∧ piece ≠ ['.', '.'] ∧
        ofPiece? piece = some (.name (String.ofList piece)) := by
  by_cases hhere : piece = [] ∨ piece = ['.']
  · refine .inl ⟨hhere, ?_⟩
    rcases hhere with rfl | rfl <;> rfl
  · have hsome : (piece.isEmpty || piece == ['.']) = false := by
      rw [Bool.or_eq_false_iff, List.isEmpty_eq_false_iff, beq_eq_false_iff_ne]
      exact not_or.1 hhere
    by_cases hup : piece = ['.', '.']
    · exact .inr (.inl ⟨hup, by rw [hup]; rfl⟩)
    · refine .inr (.inr ⟨hhere, hup, ?_⟩)
      rw [ofPiece?, hsome, beq_eq_false_iff_ne.2 hup]
      rfl

/-! ## The directory around a path -/

/-- Behind a component of a text come the components of the text that is left. -/
theorem innerSteps_eq_append {piece cs after : List Char}
    {before later : List (Component × List Char)}
    {c : Component} (h : innerSteps piece cs = before ++ (c, after) :: later) :
    ∃ front, cs = front ++ after ∧ (front ≠ [] ∨ piece ≠ []) ∧
      (after = [] ∨ ∃ rest, after = '/' :: rest) ∧
      later.map (·.1) = (Text.pieces '/' after).filterMap ofPiece? := by
  have hnamed : ∀ {piece : List Char} {b}, ofPiece? piece.reverse = some b → piece ≠ [] := by
    rintro piece b hb rfl
    cases hb
  induction cs generalizing piece before with
  | nil =>
      rw [innerSteps] at h
      cases hpiece : ofPiece? piece.reverse with
      | none =>
          rw [hpiece] at h
          cases before <;> cases h
      | some b =>
          rw [hpiece] at h
          cases before with
          | nil =>
              cases h
              exact ⟨[], rfl, .inr (hnamed hpiece), .inl rfl, rfl⟩
          | cons a before => cases before <;> cases (List.cons.inj h).2
  | cons d ds ih =>
      have hbehind : ∀ {inner before}, innerSteps inner ds = before ++ (c, after) :: later →
          ∃ front, d :: ds = front ++ after ∧ (front ≠ [] ∨ piece ≠ []) ∧
            (after = [] ∨ ∃ rest, after = '/' :: rest) ∧
            later.map (·.1) = (Text.pieces '/' after).filterMap ofPiece? := by
        intro inner before h
        obtain ⟨front, rfl, -, hafter, hlater⟩ := ih h
        exact ⟨d :: front, rfl, .inl (List.cons_ne_nil _ _), hafter, hlater⟩
      rw [innerSteps] at h
      split at h
      · rename_i hslash
        cases hpiece : ofPiece? piece.reverse with
        | none =>
            rw [hpiece] at h
            exact hbehind h
        | some b =>
            rw [hpiece] at h
            cases before with
            | nil =>
                obtain ⟨⟨⟩, hlater⟩ := List.cons.inj h
                have hlater : innerSteps [] ds = later := hlater
                rw [← hlater, map_innerSteps_nil, beq_iff_eq.1 hslash, Text.pieces_cons_self]
                exact ⟨[], rfl, .inr (hnamed hpiece), .inr ⟨ds, rfl⟩, rfl⟩
            | cons a before => exact hbehind (List.cons.inj h).2
      · exact hbehind h

theorem components_append {p : Path} {front after : List Char} (hp : p.text.toList = front ++ after)
    (hne : front ≠ []) (hafter : after = [] ∨ ∃ rest, after = '/' :: rest) : p.components =
      Path.components ⟨String.ofList front⟩ ++ (Text.pieces '/' after).filterMap ofPiece? := by
  rw [components_eq, components_eq, hp, String.toList_ofList]
  rcases hafter with rfl | ⟨rest, rfl⟩
  · rw [List.append_nil]
    exact (List.append_nil _).symm
  · rw [lead_append_slash rest (.inl rfl) hne, Text.pieces_append, Text.pieces_cons_self,
      List.filterMap_append, List.append_assoc]
    rfl

/-- The text up to a component has the components up to that one. -/
theorem components_of_steps {p : Path} {before later : List (Component × List Char)} {c : Component}
    {after : List Char} (h : steps p.text.toList = before ++ (c, after) :: later) :
    ∃ front, p.text.toList = front ++ after ∧
      p.components = Path.components ⟨String.ofList front⟩ ++ later.map (·.1) := by
  have hinner : ∀ first {cs before}, p.text.toList = first ++ cs →
      innerSteps [] cs = before ++ (c, after) :: later → ∃ front, p.text.toList = front ++ after ∧
        p.components = Path.components ⟨String.ofList front⟩ ++ later.map (·.1) := by
    intro first cs before hp hsteps
    obtain ⟨front, rfl, hne, hafter, hlater⟩ := innerSteps_eq_append hsteps
    rw [← List.append_assoc] at hp
    refine ⟨first ++ front, hp, ?_⟩
    rw [hlater]
    exact components_append hp (List.append_ne_nil_of_right_ne_nil _ (hne.resolve_right (· rfl)))
      hafter
  have hcomponents : p.components = (steps p.text.toList).map (·.1) := rfl
  generalize hcs : p.text.toList = cs at h hcomponents hinner ⊢
  unfold steps at h
  split at h
  · rename_i rest
    cases before with
    | nil =>
        cases h
        exact ⟨['/'], rfl, hcomponents⟩
    | cons x before => exact hinner ['/'] rfl (List.cons.inj h).2
  · cases before with
    | nil =>
        cases h
        exact ⟨['.'], rfl, hcomponents⟩
    | cons x before => cases before <;> cases (List.cons.inj h).2
  · rename_i rest
    cases before with
    | nil =>
        cases h
        exact ⟨['.'], rfl, hcomponents⟩
    | cons x before => exact hinner ['.'] rfl (List.cons.inj h).2
  · exact hinner [] rfl h

/-- A path has one component more than the directory around it. -/
theorem components_of_parent? {p q : Path} (h : p.parent? = some q) :
    ∃ c, p.components = q.components ++ [c] := by
  have hcomponents : p.components = (steps p.text.toList).map (·.1) := rfl
  rw [parent?, ancestors, List.getElem?_cons_succ] at h
  cases hsteps : (steps p.text.toList).reverse with
  | nil =>
      rw [hsteps] at h
      cases h
  | cons x rest =>
      rw [hsteps] at h
      have hreverse : steps p.text.toList = rest.reverse ++ [x] := by
        rw [← List.reverse_reverse (steps p.text.toList), hsteps, List.reverse_cons]
      obtain ⟨last, behind⟩ := x
      refine ⟨last, ?_⟩
      cases rest with
      | nil =>
          rw [hcomponents, hreverse]
          cases last with
          | root => cases h
          | current =>
              cases h
              rfl
          | parent =>
              cases h
              rfl
          | name n =>
              cases h
              rfl
      | cons y rest =>
          obtain ⟨c, after⟩ := y
          rw [holders] at h
          obtain rfl := Option.some.inj h
          rw [List.reverse_cons, List.append_assoc] at hreverse
          obtain ⟨front, hfront, heq⟩ := components_of_steps hreverse
          have htake : p.text.toList.take (p.text.toList.length - after.length) = front := by
            rw [hfront, List.length_append, Nat.add_sub_cancel, List.take_left]
          rw [htake]
          exact heq

theorem eq_name_of_fileName? {p : Path} {cs : List Component} {c : Component} {name : String}
    (hcs : p.components = cs ++ [c]) (h : p.fileName? = some name) : c = .name name := by
  rw [fileName?, hcs, List.getLast?_concat] at h
  cases c with
  | name n => exact congrArg Component.name (Option.some.inj h)
  | root => cases h
  | current => cases h
  | parent => cases h

end Path

namespace Disk

variable {d : Disk} {place q : Location}

/--
Components reach the place that they denote: every one leads on from a directory, and the place is
there.
-/
structure Reaches (d : Disk) (cs : List Component) (place : Location) : Prop where
  place_eq : place = placeOf d.here cs
  way : ∀ ds c, ds ++ [c] <+: cs → d.tree.hasDirectory (placeOf d.here ds) = true
  found : (d.tree.find? place).isSome = true

/--
A path leads to the place that its components reach, if that is a directory where the text asks for
one.
-/
structure LeadsTo (d : Disk) (p : Path) (place : Location) : Prop extends
    Reaches d p.components place where
  directory : p.AsksDirectory → d.tree.hasDirectory place = true
  text_ne : p.text ≠ ""

/--
A path denotes the place that its components do. The last one need not be there, but what is around
it.
-/
structure Denotes (d : Disk) (p : Path) (place : Location) : Prop where
  place_eq : place = placeOf d.here p.components
  around : d.Reaches p.components.dropLast (placeOf d.here p.components.dropLast)

/-! ## Following a path -/

theorem isSome_of_hasDirectory (h : d.tree.hasDirectory place = true) :
    (d.tree.find? place).isSome = true := by
  obtain ⟨t, ht, -⟩ := (Option.any_eq_true _ _).1 h
  exact Option.isSome_of_eq_some ht

theorem isSome_of_prefix (h : (d.tree.find? q).isSome = true) (hbelow : place <+: q) :
    (d.tree.find? place).isSome = true := by
  obtain ⟨rest, rfl⟩ := hbelow
  rw [FileTree.find?_append] at h
  exact Option.isSome_of_isSome_bind h

theorem hasDirectory_of_step {piece : List Char} (h : d.step place piece = .ok q) :
    d.tree.hasDirectory place = true := by
  rw [step] at h
  split at h
  · cases h
  · rename_i hdir
    simpa using hdir

theorem isSome_of_step {piece : List Char} (h : d.step place piece = .ok q) :
    (d.tree.find? q).isSome = true := by
  have hdir := isSome_of_hasDirectory (hasDirectory_of_step h)
  obtain ⟨-, rfl⟩ | ⟨-, rfl⟩ | ⟨name, -, rfl, hfound⟩ := step_eq_ok_cases h
  · exact hdir
  · exact isSome_of_prefix hdir (List.dropLast_prefix place)
  · exact hfound

theorem isSome_of_walk {pieces : List (List Char)} (h : d.walk place pieces = .ok q)
    (hplace : (d.tree.find? place).isSome = true) : (d.tree.find? q).isSome = true := by
  induction pieces generalizing place with
  | nil => exact Except.ok.inj h ▸ hplace
  | cons piece pieces ih =>
      rw [walk] at h
      split at h
      · rename_i next hstep
        exact ih h (isSome_of_step hstep)
      · cases h

/-- A path that leads somewhere goes through directories. -/
theorem hasDirectory_of_walk {pieces : List (List Char)} {cs : List Component} {c : Component}
    (h : d.walk place pieces = .ok q) (hfront : cs ++ [c] <+: pieces.filterMap Path.ofPiece?) :
    d.tree.hasDirectory (placeOf place cs) = true := by
  induction pieces generalizing place cs with
  | nil =>
      have hlength := hfront.length_le
      rw [List.length_append] at hlength
      cases hlength
  | cons piece pieces ih =>
      rw [walk] at h
      split at h
      · rename_i next hstep
        cases hpiece : Path.ofPiece? piece with
        | none =>
            rw [List.filterMap_cons_none hpiece] at hfront
            rw [step_eq_ok_placeOf hstep, hpiece] at h
            exact ih h hfront
        | some b =>
            rw [List.filterMap_cons_some hpiece] at hfront
            rw [step_eq_ok_placeOf hstep, hpiece] at h
            cases cs with
            | nil => exact hasDirectory_of_step hstep
            | cons a cs =>
                obtain ⟨rfl, hrest⟩ := List.cons_prefix_cons.1 hfront
                show d.tree.hasDirectory (placeOf (placeOf place [a]) cs) = true
                exact ih h hrest
      · cases h

/-- A last piece that names nothing stays at a directory. -/
theorem hasDirectory_of_walk_getLast {pieces : List (List Char)} {piece : List Char}
    (h : d.walk place pieces = .ok q) (hlast : pieces.getLast? = some piece)
    (hnone : Path.ofPiece? piece = none) : d.tree.hasDirectory q = true := by
  obtain ⟨before, rfl⟩ := List.getLast?_eq_some_iff.1 hlast
  rw [walk_append] at h
  cases hwalk : d.walk place before with
  | error e =>
      rw [hwalk] at h
      cases h
  | ok r =>
      rw [hwalk] at h
      have hstep : d.step r piece = .ok q := (walk_singleton r piece).symm.trans h
      have hstays : q = r := by
        rw [step_eq_ok_placeOf hstep, hnone]
        rfl
      rw [hstays]
      exact hasDirectory_of_step hstep

/--
From a directory a piece leads to the place of its component, if an entry that it names is there.
-/
theorem step_of_found {piece : List Char} (hdir : d.tree.hasDirectory place = true)
    (hname : ∀ name, Path.ofPiece? piece = some (.name name) →
      name.utf8ByteSize ≤ nameLimit ∧ (d.tree.find? (place ++ [name])).isSome = true) :
    d.step place piece = .ok (placeOf place (Path.ofPiece? piece).toList) := by
  rw [step, hdir, if_neg (by decide)]
  obtain ⟨hhere, hpiece⟩ | ⟨rfl, hpiece⟩ | ⟨hhere, hup, hpiece⟩ := Path.ofPiece?_cases piece
  · rw [if_pos hhere, hpiece]
    rfl
  · rw [if_neg (by decide), if_pos rfl, hpiece]
    rfl
  · obtain ⟨hshort, hentry⟩ := hname _ hpiece
    rw [if_neg hhere, if_neg hup, hpiece]
    dsimp only
    rw [if_neg (Nat.not_lt.2 hshort), if_pos hentry]
    rfl

/-- Following the pieces of a way through directories leads to the place at its end. -/
theorem walk_of_way {pieces : List (List Char)}
    (hway : ∀ cs c, cs ++ [c] <+: pieces.filterMap Path.ofPiece? →
      d.tree.hasDirectory (placeOf place cs) = true)
    (hfound : (d.tree.find? (placeOf place (pieces.filterMap Path.ofPiece?))).isSome = true)
    (hshort : ∀ name, .name name ∈ pieces.filterMap Path.ofPiece? → name.utf8ByteSize ≤ nameLimit)
    (hlast : ∀ piece, pieces.getLast? = some piece → Path.ofPiece? piece = none →
      d.tree.hasDirectory (placeOf place (pieces.filterMap Path.ofPiece?)) = true) :
    d.walk place pieces = .ok (placeOf place (pieces.filterMap Path.ofPiece?)) := by
  induction pieces generalizing place with
  | nil => rfl
  | cons piece pieces ih =>
      -- Pieces without components lead nowhere else, so the last one asks for a directory here.
      have hdir : d.tree.hasDirectory place = true := by
        cases hcs : (piece :: pieces).filterMap Path.ofPiece? with
        | nil =>
            rw [hcs] at hlast
            obtain ⟨last, hmem⟩ := Option.isSome_iff_exists.1
              (List.getLast?_isSome.2 (List.cons_ne_nil piece pieces))
            exact hlast last hmem (List.filterMap_eq_nil_iff.1 hcs last (List.mem_of_getLast? hmem))
        | cons c cs => exact hway [] c (hcs ▸ List.cons_prefix_cons.2 ⟨rfl, List.nil_prefix⟩)
      have hcons : (piece :: pieces).filterMap Path.ofPiece? =
          (Path.ofPiece? piece).toList ++ pieces.filterMap Path.ofPiece? := by
        rw [List.filterMap_cons]
        cases Path.ofPiece? piece <;> rfl
      rw [hcons] at hway hfound hshort hlast ⊢
      rw [placeOf_append] at hfound hlast ⊢
      have hname : ∀ name, Path.ofPiece? piece = some (.name name) →
          name.utf8ByteSize ≤ nameLimit ∧ (d.tree.find? (place ++ [name])).isSome = true := by
        intro name hpiece
        rw [hpiece] at hway hfound hshort
        refine ⟨hshort name (List.mem_cons_self ..), ?_⟩
        cases hcs : pieces.filterMap Path.ofPiece? with
        | nil => rwa [hcs] at hfound
        | cons c cs =>
            rw [hcs] at hway
            exact isSome_of_hasDirectory
              (hway [.name name] c ((List.prefix_append_right_inj _).2 ⟨cs, rfl⟩))
      rw [walk, step_of_found hdir hname]
      refine ih (fun cs c hfront => ?_) hfound
        (fun name hmem => hshort name (List.mem_append_right _ hmem)) fun last hmem => hlast last ?_
      · rw [← placeOf_append]
        refine hway _ c ?_
        rw [List.append_assoc]
        exact (List.prefix_append_right_inj _).2 hfront
      · rw [List.getLast?_cons, hmem]
        rfl

/-! ## Where a path leads -/

theorem eq_nil_of_prefix_lead {text : List Char} {cs : List Component} {c : Component}
    (h : cs ++ [c] <+: Path.lead text) : cs = [] := by
  have hlength := h.length_le
  have hshort : (Path.lead text).length ≤ 1 := by
    rw [Path.lead]
    split
    · exact Nat.le_refl 1
    · split
      · exact Nat.le_refl 1
      · exact Nat.zero_le 1
  rw [List.length_append, List.length_singleton] at hlength
  exact List.eq_nil_of_length_eq_zero (by omega)

theorem leadsTo_of_locate (hd : d.IsSound) (hhere : d.tree.hasDirectory d.here = true) {p : Path}
    (h : d.locate p = .ok place) : d.LeadsTo p place := by
  have hplace := locate_eq_ok_placeOf h
  rw [locate] at h
  split at h
  · rename_i pieces hpieces
    obtain ⟨-, hne, rfl⟩ := piecesOf_eq_ok.1 hpieces
    have hstart : d.tree.hasDirectory (d.start p) = true := by
      rw [start]
      split
      · exact hd.top
      · exact hhere
    refine ⟨⟨hplace, fun cs c hfront => ?_, ?_⟩, ?_, ?_⟩
    · rw [Path.components_eq] at hfront
      rcases prefix_append_cases hfront with hlead | ⟨ds, rfl, hrest⟩
      · rw [eq_nil_of_prefix_lead hlead]
        exact hhere
      · rw [placeOf_append, placeOf_lead]
        exact hasDirectory_of_walk h hrest
    · exact isSome_of_walk h (isSome_of_hasDirectory hstart)
    · rintro ⟨piece, hlast, hnone⟩
      exact hasDirectory_of_walk_getLast h hlast hnone
    · intro htext
      exact hne (by rw [htext]; rfl)
  · cases h

/-- What a path that leads somewhere names is a name that a file can have. -/
theorem LeadsTo.isFileName (hd : d.IsSound) {p : Path} {name : String} (h : d.LeadsTo p place)
    (hname : .name name ∈ p.components) : IsFileName name := by
  obtain ⟨cs, ds, hcs⟩ := List.append_of_mem hname
  have hentry : (d.tree.find? (placeOf d.here (cs ++ [.name name]))).isSome = true := by
    cases ds with
    | nil =>
        rw [← hcs, ← h.place_eq]
        exact h.found
    | cons c ds =>
        refine isSome_of_hasDirectory (h.way _ c ?_)
        rw [hcs, List.append_assoc]
        exact (List.prefix_append_right_inj _).2 ⟨ds, rfl⟩
  obtain ⟨t, ht⟩ := Option.isSome_iff_exists.1 hentry
  refine FileTree.isFileName_of_find? hd.tree ht name ?_
  rw [placeOf_append]
  exact List.mem_append_right _ (List.mem_singleton_self name)

theorem locate_of_leadsTo (hd : d.IsSound) {p : Path} (h : d.LeadsTo p place) :
    d.locate p = .ok place := by
  have hcomponents := Path.components_eq p
  have hmem : ∀ name, .name name ∈ (Text.pieces '/' p.text.toList).filterMap Path.ofPiece? →
      IsFileName name := by
    intro name hname
    refine h.isFileName hd ?_
    rw [hcomponents]
    exact List.mem_append_right _ hname
  have hzero : '\x00' ∉ p.text.toList := by
    intro hzero
    rcases Text.mem_pieces_of_mem '/' hzero with heq | ⟨piece, hpiece, hzero⟩
    · cases heq
    obtain ⟨hhere | hhere, -⟩ | ⟨rfl, -⟩ | ⟨-, -, hname⟩ := Path.ofPiece?_cases piece
    · rw [hhere] at hzero
      cases hzero
    · rw [hhere] at hzero
      exact absurd hzero (by decide)
    · exact absurd hzero (by decide)
    · have hfile := hmem _ (List.mem_filterMap.2 ⟨piece, hpiece, hname⟩)
      exact hfile.noZero (by rwa [String.toList_ofList])
  have hpieces :=
    piecesOf_eq_ok.2 ⟨hzero, fun hnil => h.text_ne (String.toList_injective hnil), rfl⟩
  have hplace : place =
      placeOf (d.start p) ((Text.pieces '/' p.text.toList).filterMap Path.ofPiece?) := by
    rw [h.place_eq, hcomponents, placeOf_append, placeOf_lead]
  rw [locate, hpieces]
  show d.walk (d.start p) (Text.pieces '/' p.text.toList) = .ok place
  rw [hplace]
  refine walk_of_way (fun cs c hfront => ?_) ?_ (fun name hname => (hmem name hname).short)
    fun piece hlast hnone => ?_
  · have hway := h.way (Path.lead p.text.toList ++ cs) c
    rw [hcomponents, List.append_assoc, placeOf_append, placeOf_lead] at hway
    exact hway ((List.prefix_append_right_inj _).2 hfront)
  · rw [← hplace]
    exact h.found
  · rw [← hplace]
    exact h.directory ⟨piece, hlast, hnone⟩

/-- Following a path finds the place that it leads to, if there is one. -/
theorem locate_eq_ok_iff (hd : d.IsSound) (hhere : d.tree.hasDirectory d.here = true) {p : Path} :
    d.locate p = .ok place ↔ d.LeadsTo p place :=
  ⟨leadsTo_of_locate hd hhere, locate_of_leadsTo hd⟩

/-! ## Staying inside -/

theorem LeadsTo.denotes {p : Path} (h : d.LeadsTo p place) : d.Denotes p place := by
  refine ⟨h.place_eq, rfl, fun ds c hfront => h.way ds c (hfront.trans (List.dropLast_prefix _)),
    ?_⟩
  rcases List.eq_nil_or_concat p.components with hnil | ⟨cs, c, hcs⟩
  · have hfound := h.found
    rw [h.place_eq, hnil] at hfound
    rw [hnil]
    exact hfound
  · rw [List.concat_eq_append] at hcs
    rw [hcs, List.dropLast_concat]
    exact isSome_of_hasDirectory (h.way cs c (hcs ▸ List.prefix_refl _))

/--
A place is where the path leads, or where the path around it leads with the last name behind that.
-/
theorem locateNew_cases {p : Path} (h : d.locateNew p = .ok place) :
    d.locate p = .ok place ∨ ∃ directory name around, p.parent? = some directory ∧
      p.fileName? = some name ∧ d.locate directory = .ok around ∧ place = around ++ [name] := by
  rw [locateNew] at h
  split at h
  · cases hlocate : d.locate p with
    | error e =>
        rw [hlocate] at h
        cases h
    | ok q =>
        rw [hlocate] at h
        exact .inl (congrArg Except.ok (Except.ok.inj h))
  · split at h
    · rename_i directory name hparent hname
      cases hlocate : d.locate directory with
      | error e =>
          rw [hlocate] at h
          cases h
      | ok around =>
          rw [hlocate] at h
          exact .inr ⟨directory, name, around, hparent, hname, hlocate, (Except.ok.inj h).symm⟩
    · cases h

/--
The place that is found for a path is the one that it denotes, also where its last name is missing.
-/
theorem denotes_of_locateNew (hd : d.IsSound) (hhere : d.tree.hasDirectory d.here = true) {p : Path}
    (h : d.locateNew p = .ok place) : d.Denotes p place := by
  rcases locateNew_cases h with hlocate | ⟨directory, name, around, hparent, hname, hlocate, rfl⟩
  · exact (leadsTo_of_locate hd hhere hlocate).denotes
  · obtain ⟨c, hcs⟩ := Path.components_of_parent? hparent
    obtain rfl := Path.eq_name_of_fileName? hcs hname
    have hleads := leadsTo_of_locate hd hhere hlocate
    have hplace := hleads.place_eq
    refine ⟨?_, ?_⟩
    · rw [hcs, placeOf_append, ← hplace]
      rfl
    · rw [hcs, List.dropLast_concat, ← hplace]
      exact hleads.toReaches

theorem locateNew_of_locate {p : Path} (h : d.locate p = .ok place) :
    d.locateNew p = .ok place := by
  rw [locateNew, leadsSomewhere, h]
  rfl

/-- Below a root a place is taken if it has the names of the root in front. -/
theorem locateWithin_eq {root p : Path} {top : Location} (hroot : d.locate root = .ok top) :
    d.locateWithin root p = (d.locateNew p).bind fun place =>
      if top <+: place then .ok place else .error (.outsideRoot p) := by
  rw [locateWithin, hroot]
  simp only [← List.isPrefixOf_iff_prefix]
  rfl

theorem locateWithin_eq_ok_iff {root p : Path} {top : Location} (hroot : d.locate root = .ok top) :
    d.locateWithin root p = .ok place ↔ d.locateNew p = .ok place ∧ top <+: place := by
  rw [locateWithin_eq hroot]
  cases d.locateNew p with
  | error e =>
      constructor
      · exact fun h => nomatch h
      · exact fun h => nomatch h.1
  | ok q =>
      rw [Except.bind]
      constructor
      · intro h
        split at h
        · rename_i hbelow
          obtain rfl := Except.ok.inj h
          exact ⟨rfl, hbelow⟩
        · cases h
      · rintro ⟨hq, hbelow⟩
        obtain rfl := Except.ok.inj hq
        exact if_pos hbelow

theorem mem_placeOf {here : Location} {cs : List Component} {name : String}
    (h : name ∈ placeOf here cs) : name ∈ here ∨ .name name ∈ cs := by
  induction cs generalizing here with
  | nil => exact .inl h
  | cons c cs ih =>
      rcases ih h with hmove | hmem
      · cases c with
        | root => cases hmove
        | current => exact .inl hmove
        | parent => exact .inl ((List.dropLast_prefix here).subset hmove)
        | name n =>
            rcases List.mem_append.1 hmove with hhere | hname
            · exact .inl hhere
            · rw [List.mem_singleton.1 hname]
              exact .inr (List.mem_cons_self ..)
      · exact .inr (List.mem_cons_of_mem _ hmem)

end Disk

/-- A name of a component is neither empty nor a special component, and has no slash. -/
theorem Path.name_of_mem_components {p : Path} {name : String} (h : .name name ∈ p.components) :
    name ≠ "" ∧ name ≠ "." ∧ name ≠ ".." ∧ '/' ∉ name.toList := by
  rw [components_eq, List.mem_append, List.mem_filterMap] at h
  rcases h with hlead | ⟨piece, hpiece, hname⟩
  · rw [lead] at hlead
    split at hlead
    · cases List.mem_singleton.1 hlead
    · split at hlead
      · cases List.mem_singleton.1 hlead
      · cases hlead
  · obtain ⟨-, hnone⟩ | ⟨-, hup⟩ | ⟨hhere, hup, hsome⟩ := ofPiece?_cases piece
    · rw [hnone] at hname
      cases hname
    · rw [hup] at hname
      cases hname
    · rw [hsome] at hname
      cases hname
      have hne : ∀ text : String, piece ≠ text.toList → String.ofList piece ≠ text := by
        rintro text htext rfl
        exact htext String.toList_ofList.symm
      rw [not_or] at hhere
      refine ⟨hne "" hhere.1, hne "." hhere.2, hne ".." hup, ?_⟩
      rw [String.toList_ofList]
      exact Text.not_mem_of_mem_pieces hpiece

namespace Disk

variable {d : Disk}

/--
A place that is found for a path inside of an existing root is told by plain names, has those of the
root in front, and is the one that the path denotes. A path that leads somewhere is let in exactly
if that is the root or below it.
-/
theorem locateWithin_confines (hd : d.IsSound) (hhere : d.tree.hasDirectory d.here = true)
    {root p : Path} {top : Location} (hroot : d.LeadsTo root top) :
    (∀ place, d.locateWithin root p = .ok place →
      (∀ name ∈ place, name ≠ "" ∧ name ≠ "." ∧ name ≠ ".." ∧ '/' ∉ name.toList) ∧
        top <+: place ∧ d.Denotes p place) ∧
    (∀ place, d.LeadsTo p place → (top <+: place → d.locateWithin root p = .ok place) ∧
      (¬top <+: place → d.locateWithin root p = .error (.outsideRoot p))) := by
  have htop := (locate_eq_ok_iff hd hhere).2 hroot
  constructor
  · intro place h
    obtain ⟨hnew, hbelow⟩ := (locateWithin_eq_ok_iff htop).1 h
    have hdenotes := denotes_of_locateNew hd hhere hnew
    refine ⟨fun name hname => ?_, hbelow, hdenotes⟩
    rw [hdenotes.place_eq] at hname
    rcases mem_placeOf hname with hmem | hmem
    · obtain ⟨t, ht⟩ := Option.isSome_iff_exists.1 (isSome_of_hasDirectory hhere)
      have hfile := FileTree.isFileName_of_find? hd.tree ht name hmem
      exact ⟨hfile.ne_empty, hfile.ne_dot, hfile.ne_dots, hfile.noSlash⟩
    · exact Path.name_of_mem_components hmem
  · intro place hleads
    have hnew := locateNew_of_locate ((locate_eq_ok_iff hd hhere).2 hleads)
    refine ⟨fun hbelow => (locateWithin_eq_ok_iff htop).2 ⟨hnew, hbelow⟩, fun hbelow => ?_⟩
    rw [locateWithin_eq htop, hnew]
    exact if_neg hbelow

/-- A project, and beside it a directory whose name starts with that of the project. -/
def siblings : Disk where
  tree := .directory [
    ("proj", .directory [("1.md", .file (.text "")), ("todo", .directory [])]),
    ("proj-old", .directory [("1.md", .file (.text ""))])]
  here := ["proj"]

theorem isSound_siblings : siblings.IsSound where
  top := rfl
  tree := ⟨List.pairwise_pair.2 (by decide), by decide,
    ⟨List.pairwise_pair.2 (by decide), by decide, trivial, by decide,
      ⟨List.Pairwise.nil, trivial⟩, trivial⟩,
    by decide, ⟨List.pairwise_singleton .., by decide, trivial, trivial⟩, trivial⟩

/-- The neighbour is left out, and a new file is denoted through a directory that is left again. -/
theorem locateWithin_confines_siblings :
    siblings.LeadsTo ⟨"."⟩ ["proj"] ∧
      siblings.LeadsTo ⟨"todo/../../proj-old/1.md"⟩ ["proj-old", "1.md"] ∧
      siblings.locateWithin ⟨"."⟩ ⟨"todo/../../proj-old/1.md"⟩ =
        .error (.outsideRoot ⟨"todo/../../proj-old/1.md"⟩) ∧
      siblings.locateWithin ⟨"."⟩ ⟨"../proj/./todo/../new.md"⟩ = .ok ["proj", "new.md"] ∧
      siblings.Denotes ⟨"../proj/./todo/../new.md"⟩ ["proj", "new.md"] := by
  have hhere : siblings.tree.hasDirectory siblings.here = true := rfl
  have hroot : siblings.LeadsTo ⟨"."⟩ ["proj"] := leadsTo_of_locate isSound_siblings hhere rfl
  have hold : siblings.LeadsTo ⟨"todo/../../proj-old/1.md"⟩ ["proj-old", "1.md"] :=
    leadsTo_of_locate isSound_siblings hhere rfl
  have hnew : siblings.locateWithin ⟨"."⟩ ⟨"../proj/./todo/../new.md"⟩ = .ok ["proj", "new.md"] :=
    rfl
  exact ⟨hroot, hold,
    ((locateWithin_confines isSound_siblings hhere hroot).2 _ hold).2 (by decide), hnew,
    ((locateWithin_confines isSound_siblings hhere hroot).1 _ hnew).2.2⟩

end Disk
end WorkItems
