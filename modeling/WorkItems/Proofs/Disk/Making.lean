import WorkItems.Proofs.Disk
/-!
# Where directories are made

A path denotes a place by its components alone, whatever lies there (`Disk.placeOf`): `..` leads up
and a name leads down. Where following a path succeeds, it leads to that place. Making a directory,
and those that have to be made for it, adds entries at places that the path names on its way
(`Disk.Names`), where there was nothing. All that was there stays what it was (`Disk.Adds`), so
paths lead where they led.
-/

namespace WorkItems

/-! ## What lies at a place -/

namespace FileTree

/-- The content of a file. A directory has none. -/
def content? : FileTree → Option Content
  | file c => some c
  | directory _ => none

/-- What lies at a place: nothing, a directory, or a file with its content. -/
def kind? (t : FileTree) (place : Location) : Option (Option Content) :=
  (t.find? place).map content?

/--
Putting something where the way leads through directories changes nothing but what is there and
below.
-/
theorem kind?_put {t new : FileTree} {place q : Location}
    (hway : place ≠ [] → t.hasDirectory place.dropLast = true) (hq : ¬place <+: q) :
    (t.put place new).kind? q = t.kind? q := by
  induction place generalizing t q with
  | nil => exact absurd List.nil_prefix hq
  | cons name rest ih =>
      cases t with
      | file c => rfl
      | directory es =>
          cases q with
          | nil => rfl
          | cons k q =>
              rw [put, kind?, kind?, find?, find?, Entries.find?_insert]
              split
              · rename_i heq
                subst heq
                have hrest : ¬rest <+: q := fun h => hq (List.cons_prefix_cons.2 ⟨rfl, h⟩)
                have hne : rest ≠ [] := by
                  rintro rfl
                  exact hrest List.nil_prefix
                have hinner := hway (List.cons_ne_nil _ _)
                rw [List.dropLast_cons_of_ne_nil hne, hasDirectory, find?] at hinner
                cases hfind : Entries.find? name es with
                | none =>
                    rw [hfind] at hinner
                    cases hinner
                | some u =>
                    rw [hfind] at hinner
                    exact ih (fun _ => hinner) hrest
              · rfl

/-- What is put at a place is found there. -/
theorem find?_put {t new : FileTree} {place rest : Location}
    (hway : place ≠ [] → t.hasDirectory place.dropLast = true) :
    (t.put place new).find? (place ++ rest) = new.find? rest := by
  induction place generalizing t with
  | nil => rfl
  | cons name place ih =>
      have hinner := hway (List.cons_ne_nil _ _)
      cases t with
      | file c =>
          cases place <;> cases hinner
      | directory es =>
          rw [put, List.cons_append, find?, Entries.find?_insert, if_pos rfl, Option.bind_some]
          refine ih fun hne => ?_
          rw [List.dropLast_cons_of_ne_nil hne, hasDirectory, find?] at hinner
          cases hfind : Entries.find? name es with
          | none =>
              rw [hfind] at hinner
              cases hinner
          | some u =>
              rw [hfind] at hinner
              exact hinner

/-- A new entry below which there is nothing changes no other place. -/
theorem kind?_put_of_ne {t new : FileTree} {place q : Location}
    (hway : place ≠ [] → t.hasDirectory place.dropLast = true) (hold : t.find? place = none)
    (hnew : ∀ rest, rest ≠ [] → new.find? rest = none) (hq : q ≠ place) :
    (t.put place new).kind? q = t.kind? q := by
  by_cases hfront : place <+: q
  · obtain ⟨rest, rfl⟩ := hfront
    have hrest : rest ≠ [] := by
      rintro rfl
      exact hq (List.append_nil _)
    rw [kind?, kind?, find?_put hway, hnew rest hrest, find?_append, hold]
    rfl
  · exact kind?_put hway hfront

theorem kind?_eq_none {t : FileTree} {place : Location} :
    t.kind? place = none ↔ t.find? place = none :=
  Option.map_eq_none_iff

/-- Whether a directory lies at a place depends only on what lies there. -/
theorem hasDirectory_eq_true {t : FileTree} {place : Location} :
    t.hasDirectory place = true ↔ t.kind? place = some none := by
  rw [hasDirectory, kind?]
  cases t.find? place with
  | none => simp
  | some u =>
      cases u with
      | file c => simp [isDirectory, content?]
      | directory es => simp [isDirectory, content?]

/-- Whether a file lies at a place, and what it holds, depends only on what lies there. -/
theorem find?_eq_file_iff {t : FileTree} {place : Location} {c : Content} :
    t.find? place = some (.file c) ↔ t.kind? place = some (some c) := by
  rw [kind?]
  cases t.find? place with
  | none => simp
  | some u =>
      cases u with
      | file c => simp [content?]
      | directory es => simp [content?]

end FileTree

/-- From one disk to the other something is added at some places where there was nothing. -/
structure Disk.Adds (P : Location → Prop) (d e : Disk) : Prop where
  here : e.here = d.here
  kind? : ∀ place, e.tree.kind? place = d.tree.kind? place ∨ d.tree.kind? place = none ∧ P place

namespace Disk

variable {P Q : Location → Prop} {d e f : Disk} {place q : Location}

theorem Adds.refl (P : Location → Prop) (d : Disk) : Adds P d d := ⟨rfl, fun _ => .inl rfl⟩

theorem Adds.trans (h : Adds P d e) (h' : Adds P e f) : Adds P d f := by
  refine ⟨h'.here.trans h.here, fun place => ?_⟩
  rcases h.kind? place with hsame | hnew
  · have hlater := h'.kind? place
    rw [hsame] at hlater
    exact hlater
  · exact .inr hnew

theorem Adds.mono (h : Adds P d e) (hPQ : ∀ place, P place → Q place) : Adds Q d e where
  here := h.here
  kind? place := (h.kind? place).imp_right fun hnew => ⟨hnew.1, hPQ place hnew.2⟩

/-- A new entry below which there is nothing adds only itself. -/
theorem adds_put {new : FileTree} (hway : place ≠ [] → d.tree.hasDirectory place.dropLast = true)
    (hold : d.tree.find? place = none) (hnew : ∀ rest, rest ≠ [] → new.find? rest = none) :
    Adds (· = place) d (d.put place new) := by
  refine ⟨rfl, fun q => ?_⟩
  by_cases hq : q = place
  · exact .inr ⟨by rw [hq, FileTree.kind?_eq_none, hold], hq⟩
  · exact .inl (FileTree.kind?_put_of_ne hway hold hnew hq)

/-! ## Ways that stay -/

theorem Adds.hasDirectory (h : Adds P d e) (hdir : d.tree.hasDirectory place = true) :
    e.tree.hasDirectory place = true := by
  rw [FileTree.hasDirectory_eq_true] at hdir ⊢
  rcases h.kind? place with hsame | ⟨hnone, -⟩
  · rw [hsame, hdir]
  · rw [hnone] at hdir
    cases hdir

theorem Adds.isSome_find? (h : Adds P d e) (hfound : (d.tree.find? place).isSome) :
    (e.tree.find? place).isSome := by
  rw [Option.isSome_iff_ne_none, Ne, ← FileTree.kind?_eq_none] at hfound ⊢
  rcases h.kind? place with hsame | ⟨hnone, -⟩
  · rwa [hsame]
  · exact absurd hnone hfound

theorem Adds.step (h : Adds P d e) {piece : List Char} (hstep : d.step place piece = .ok q) :
    e.step place piece = .ok q := by
  rw [Disk.step] at hstep ⊢
  split at hstep
  · cases hstep
  · rename_i hdir
    rw [if_neg (by simpa using h.hasDirectory (by simpa using hdir))]
    split at hstep
    · rename_i hhere
      rwa [if_pos hhere]
    · rename_i hhere
      rw [if_neg hhere]
      split at hstep
      · rename_i hup
        rwa [if_pos hup]
      · rename_i hup
        rw [if_neg hup]
        dsimp only at hstep ⊢
        split at hstep
        · cases hstep
        · rename_i hshort
          rw [if_neg hshort]
          split at hstep
          · rename_i hfound
            rwa [if_pos (h.isSome_find? hfound)]
          · cases hstep

theorem Adds.walk (h : Adds P d e) {pieces : List (List Char)}
    (hwalk : d.walk place pieces = .ok q) :
    e.walk place pieces = .ok q := by
  induction pieces generalizing place with
  | nil => exact hwalk
  | cons piece pieces ih =>
      rw [Disk.walk] at hwalk
      split at hwalk
      · rename_i next hstep
        rw [Disk.walk, h.step hstep]
        exact ih hwalk
      · cases hwalk

theorem Adds.locate (h : Adds P d e) {p : Path} (hlocate : d.locate p = .ok place) :
    e.locate p = .ok place := by
  rw [Disk.locate] at hlocate ⊢
  split at hlocate
  · have hstart : e.start p = d.start p := by rw [start, start, h.here]
    rw [hstart]
    exact h.walk hlocate
  · cases hlocate

theorem Adds.isDirectory (h : Adds P d e) {p : Path} (hdir : d.isDirectory p = true) :
    e.isDirectory p = true := by
  rw [Disk.isDirectory] at hdir ⊢
  split at hdir
  · rename_i place hlocate
    rw [h.locate hlocate]
    exact h.hasDirectory hdir
  · cases hdir

/-- A file that can be read keeps its text. -/
theorem Adds.readText (h : Adds P d e) {p : Path} {text : String}
    (hread : d.readText p = .ok text) :
    e.readText p = .ok text := by
  rw [readText_eq_ok] at hread ⊢
  obtain ⟨place, hlocate, hfound⟩ := hread
  refine ⟨place, h.locate hlocate, ?_⟩
  rw [FileTree.find?_eq_file_iff] at hfound ⊢
  rcases h.kind? place with hsame | ⟨hnone, -⟩
  · rw [hsame, hfound]
  · rw [hnone] at hfound
    cases hfound

end Disk

/-! ## The places that paths denote -/

/-- Where a component leads from a place. -/
def Component.move (place : Location) : Component → Location
  | root => []
  | current => place
  | parent => place.dropLast
  | name n => place ++ [n]

namespace Disk

/-- The place that components lead to from the current directory. -/
def placeOf (here : Location) (cs : List Component) : Location := cs.foldl Component.move here

/--
A path names a place on its way: the place is denoted by a beginning of the path that ends in a
name.
-/
def Names (here : Location) (p : Path) (place : Location) : Prop :=
  ∃ cs name, cs ++ [.name name] <+: p.components ∧ place = placeOf here cs ++ [name]

variable {d : Disk}

theorem placeOf_append (here : Location) (cs ds : List Component) :
    placeOf here (cs ++ ds) = placeOf (placeOf here cs) ds := List.foldl_append

/-- A piece leads where its component does: nowhere else, up, or down to an entry that is there. -/
theorem step_eq_ok_cases {place next : Location} {piece : List Char}
    (h : d.step place piece = .ok next) :
    Path.ofPiece? piece = none ∧ next = place ∨
      Path.ofPiece? piece = some .parent ∧ next = place.dropLast ∨
      ∃ name, Path.ofPiece? piece = some (.name name) ∧ next = place ++ [name] ∧
        (d.tree.find? next).isSome := by
  rw [step] at h
  split at h
  · cases h
  · split at h
    · rename_i hhere
      obtain rfl := Except.ok.inj h
      rcases hhere with rfl | rfl <;> exact .inl ⟨rfl, rfl⟩
    · rename_i hhere
      rw [not_or] at hhere
      have hsome : (piece.isEmpty || piece == ['.']) = false := by
        rw [Bool.or_eq_false_iff, List.isEmpty_eq_false_iff, beq_eq_false_iff_ne]
        exact hhere
      split at h
      · rename_i hup
        obtain rfl := Except.ok.inj h
        exact .inr (.inl ⟨by rw [hup]; rfl, rfl⟩)
      · rename_i hup
        dsimp only at h
        split at h
        · cases h
        · split at h
          · rename_i hfound
            obtain rfl := Except.ok.inj h
            refine .inr (.inr ⟨String.ofList piece, ?_, rfl, hfound⟩)
            rw [Path.ofPiece?, hsome, beq_eq_false_iff_ne.2 hup]
            rfl
          · cases h

theorem step_eq_ok_placeOf {place next : Location} {piece : List Char}
    (h : d.step place piece = .ok next) : next = placeOf place (Path.ofPiece? piece).toList := by
  obtain ⟨hpiece, rfl⟩ | ⟨hpiece, rfl⟩ | ⟨name, hpiece, rfl, -⟩ := step_eq_ok_cases h <;>
    rw [hpiece] <;> rfl

/-- Following pieces leads where their components do. -/
theorem walk_eq_ok_placeOf {place q : Location} {pieces : List (List Char)}
    (h : d.walk place pieces = .ok q) : q = placeOf place (pieces.filterMap Path.ofPiece?) := by
  induction pieces generalizing place with
  | nil => exact (Except.ok.inj h).symm
  | cons piece pieces ih =>
      rw [walk] at h
      split at h
      · rename_i next hstep
        rw [ih h, step_eq_ok_placeOf hstep, ← placeOf_append]
        cases hpiece : Path.ofPiece? piece with
        | none => rw [List.filterMap_cons_none hpiece]; rfl
        | some c => rw [List.filterMap_cons_some hpiece]; rfl
      · cases h

/-- The start of a text says where its path starts. -/
theorem placeOf_lead (d : Disk) (p : Path) :
    placeOf d.here (Path.lead p.text.toList) = d.start p := by
  rw [start, Path.isAbsolute, Path.lead]
  split
  · rename_i hhead
    rw [if_pos (beq_iff_eq.2 hhead)]
    rfl
  · rename_i hhead
    rw [if_neg fun h => hhead (beq_iff_eq.1 h)]
    split <;> rfl

/-- Where a path leads is the place that it denotes. -/
theorem locate_eq_ok_placeOf {p : Path} {place : Location} (h : d.locate p = .ok place) :
    place = placeOf d.here p.components := by
  rw [locate] at h
  split at h
  · rename_i pieces hpieces
    rw [Path.components_eq, placeOf_append, placeOf_lead, walk_eq_ok_placeOf h,
      (piecesOf_eq_ok.1 hpieces).2.2]
  · cases h

/-! ## Ways below a place -/

/--
The beginning of two lists in a row is one of the first list, or the first list and one of the
second.
-/
theorem prefix_append_cases {α : Type} {cs ds es : List α} {c : α} (h : cs ++ [c] <+: ds ++ es) :
    cs ++ [c] <+: ds ∨ ∃ fs, cs = ds ++ fs ∧ fs ++ [c] <+: es := by
  rcases List.prefix_or_prefix_of_prefix h (List.prefix_append ds es) with hfirst | hfirst
  · exact .inl hfirst
  · rcases List.prefix_concat_iff.1 hfirst with rfl | ⟨fs, rfl⟩
    · exact .inl (List.prefix_refl _)
    · rw [List.append_assoc] at h
      exact .inr ⟨fs, rfl, (List.prefix_append_right_inj ds).1 h⟩

/--
What a relative path below another one names is named by that one, or below where that one leads.
-/
theorem names_join {here : Location} {root : Path} {child : String} {place : Location}
    (hchild : child.toList.head? ≠ some '/') (h : Names here (root.join child) place) :
    Names here root place ∨ Names (placeOf here root.components) ⟨child⟩ place := by
  by_cases hroot : root.text.toList = []
  · have hjoin : root.join child = ⟨child⟩ := by
      have hempty : root.text = "" := String.toList_injective hroot
      rw [Path.join, hempty, beq_eq_false_iff_ne.2 hchild]
      exact congrArg Path.mk (String.empty_append)
    have hcomponents : root.components = [] := by
      rw [Path.components, hroot]
      rfl
    rw [hjoin] at h
    rw [hcomponents]
    exact .inr h
  · obtain ⟨cs, name, hfront, rfl⟩ := h
    rw [Path.components_join_of_relative hroot hchild] at hfront
    rcases prefix_append_cases hfront with hfirst | ⟨ds, rfl, hrest⟩
    · exact .inl ⟨cs, name, hfirst, rfl⟩
    · refine .inr ⟨Path.lead child.toList ++ ds, name, ?_, ?_⟩
      · rw [Path.components_eq, List.append_assoc]
        exact (List.prefix_append_right_inj _).2 hrest
      · have hlead : ∀ top, placeOf top (Path.lead child.toList) = top := by
          intro top
          rw [Path.lead, if_neg hchild]
          split <;> rfl
        rw [placeOf_append, placeOf_append, hlead]

/-- What a path that leads somewhere names on its way is there. -/
theorem isSome_find?_of_walk {place q : Location} {pieces : List (List Char)} {cs : List Component}
    {name : String} (h : d.walk place pieces = .ok q)
    (hfront : cs ++ [.name name] <+: pieces.filterMap Path.ofPiece?) :
    (d.tree.find? (placeOf place cs ++ [name])).isSome := by
  induction pieces generalizing place cs with
  | nil =>
      have hlength := hfront.length_le
      rw [List.length_append] at hlength
      cases hlength
  | cons piece pieces ih =>
      rw [walk] at h
      split at h
      · rename_i next hstep
        obtain ⟨hpiece, rfl⟩ | ⟨hpiece, rfl⟩ | ⟨n, hpiece, rfl, hfound⟩ := step_eq_ok_cases hstep
        · rw [List.filterMap_cons_none hpiece] at hfront
          exact ih h hfront
        · rw [List.filterMap_cons_some hpiece] at hfront
          cases cs with
          | nil => cases (List.cons_prefix_cons.1 hfront).1
          | cons b cs =>
              obtain ⟨rfl, hrest⟩ := List.cons_prefix_cons.1 hfront
              have hup := ih h hrest
              exact hup
        · rw [List.filterMap_cons_some hpiece] at hfront
          cases cs with
          | nil =>
              cases (List.cons_prefix_cons.1 hfront).1
              exact hfound
          | cons b cs =>
              obtain ⟨rfl, hrest⟩ := List.cons_prefix_cons.1 hfront
              have hdown := ih h hrest
              exact hdown
      · cases h

theorem isSome_find?_of_names {p : Path} {place q : Location} (h : d.locate p = .ok q)
    (hnames : Names d.here p place) : (d.tree.find? place).isSome := by
  obtain ⟨cs, name, hfront, rfl⟩ := hnames
  rw [locate] at h
  split at h
  · rename_i pieces hpieces
    rw [Path.components_eq] at hfront
    rcases prefix_append_cases hfront with hlead | ⟨ds, rfl, hrest⟩
    · have hmem := hlead.subset (List.mem_append_right cs (List.mem_singleton_self _))
      rw [Path.lead] at hmem
      split at hmem
      · cases List.mem_singleton.1 hmem
      · split at hmem
        · cases List.mem_singleton.1 hmem
        · cases hmem
    · rw [placeOf_append, placeOf_lead]
      rw [← (piecesOf_eq_ok.1 hpieces).2.2] at hrest
      exact isSome_find?_of_walk h hrest
  · cases h

/--
Whether components lead nowhere above where they start, from a place so many names below that.
-/
def staysBelow (depth : Nat) : List Component → Bool
  | [] => true
  | .root :: _ => false
  | .current :: cs => staysBelow depth cs
  | .parent :: cs => 0 < depth && staysBelow (depth - 1) cs
  | .name _ :: cs => staysBelow (depth + 1) cs

theorem prefix_placeOf_of_staysBelow (top rest : Location) {cs ds : List Component}
    (h : staysBelow rest.length cs = true) (hds : ds <+: cs) :
    top <+: placeOf (top ++ rest) ds := by
  induction ds generalizing cs rest with
  | nil => exact List.prefix_append _ _
  | cons d ds ih =>
      cases cs with
      | nil => cases hds.length_le
      | cons c cs =>
          obtain ⟨rfl, htail⟩ := List.cons_prefix_cons.1 hds
          cases d with
          | root => cases h
          | current =>
              have hhere : staysBelow rest.length cs = true := h
              exact ih rest hhere htail
          | parent =>
              rw [staysBelow, Bool.and_eq_true, decide_eq_true_eq] at h
              obtain ⟨hdepth, h⟩ := h
              rw [← List.length_dropLast] at h
              have hup := ih rest.dropLast h htail
              rw [← List.dropLast_append_of_ne_nil (List.ne_nil_of_length_pos hdepth)] at hup
              exact hup
          | name n =>
              rw [staysBelow, ← List.length_singleton (a := n), ← List.length_append] at h
              have hdown := ih (rest ++ [n]) h htail
              rw [← List.append_assoc] at hdown
              exact hdown

/-- Whether components lead only down once they lead down. -/
def isStraight : List Component → Bool
  | [] => true
  | .name _ :: cs => cs.all (·.rank == 3)
  | _ :: cs => isStraight cs

/-- Names lead below where they start. -/
theorem prefix_placeOf_of_all {place : Location} {cs : List Component}
    (h : cs.all (·.rank == 3) = true) : place <+: placeOf place cs := by
  induction cs generalizing place with
  | nil => exact List.prefix_refl _
  | cons c cs ih =>
      rw [List.all_cons, Bool.and_eq_true] at h
      cases c with
      | root => cases h.1
      | current => cases h.1
      | parent => cases h.1
      | name n => exact (List.prefix_append _ _).trans (ih h.2)

/-- What a straight path names on its way holds the place that it denotes. -/
theorem prefix_placeOf_of_isStraight {here : Location} {cs ds : List Component} {name : String}
    (h : isStraight ds = true) (hcs : cs ++ [.name name] <+: ds) :
    placeOf here cs ++ [name] <+: placeOf here ds := by
  induction ds generalizing here cs with
  | nil =>
      have hlength := hcs.length_le
      rw [List.length_append] at hlength
      cases hlength
  | cons d ds ih =>
      cases cs with
      | nil =>
          obtain ⟨rfl, -⟩ := List.cons_prefix_cons.1 hcs
          exact prefix_placeOf_of_all h
      | cons b cs =>
          obtain ⟨rfl, hrest⟩ := List.cons_prefix_cons.1 hcs
          cases b with
          | root =>
              have htop := @ih [] cs h hrest
              exact htop
          | current =>
              have hsame := @ih here cs h hrest
              exact hsame
          | parent =>
              have hup := @ih here.dropLast cs h hrest
              exact hup
          | name n =>
              obtain ⟨es, rfl⟩ := hrest
              rw [isStraight, List.all_append, Bool.and_eq_true] at h
              have hdown : placeOf (here ++ [n]) (cs ++ [.name name]) <+: _ :=
                prefix_placeOf_of_all h.2
              rw [← placeOf_append, placeOf_append _ cs] at hdown
              exact hdown

/-! ## The directories around a path -/

end Disk

namespace Path

/-- Behind every component but the first slash the text ends or goes on with a slash. -/
theorem exists_front_of_mem_innerSteps {cs after : List Char} {c : Component} (piece : List Char)
    (h : (c, after) ∈ innerSteps piece cs) :
    ∃ front, cs = front ++ after ∧ (after = [] ∨ ∃ rest, after = '/' :: rest) := by
  induction cs generalizing piece with
  | nil =>
      rw [innerSteps] at h
      obtain ⟨d, -, heq⟩ := List.mem_map.1 h
      cases heq
      exact ⟨[], rfl, .inl rfl⟩
  | cons d cs ih =>
      rw [innerSteps] at h
      have hrest : ∀ piece, (c, after) ∈ innerSteps piece cs →
          ∃ front, d :: cs = front ++ after ∧ (after = [] ∨ ∃ rest, after = '/' :: rest) := by
        intro piece hmem
        obtain ⟨front, hfront, hafter⟩ := ih piece hmem
        exact ⟨d :: front, congrArg (d :: ·) hfront, hafter⟩
      split at h
      · rename_i hslash
        rcases List.mem_append.1 h with h | h
        · obtain ⟨e, -, heq⟩ := List.mem_map.1 h
          cases heq
          exact ⟨[], rfl, .inr ⟨cs, by rw [beq_iff_eq.1 hslash]⟩⟩
        · exact hrest [] h
      · exact hrest (d :: piece) h

/-- The beginning of a text up to one of its components, with what comes behind it. -/
theorem exists_front_of_mem_steps {cs after : List Char} {c : Component}
    (h : (c, after) ∈ steps cs) :
    ∃ front, cs = front ++ after ∧
    (after = [] ∨ (∃ rest, after = '/' :: rest) ∨ front = ['/']) := by
  have hinner : ∀ {ds : List Char} (first : List Char), cs = first ++ ds →
      (c, after) ∈ innerSteps [] ds →
        ∃ front, cs = front ++ after ∧
          (after = [] ∨ (∃ rest, after = '/' :: rest) ∨ front = ['/']) := by
    intro ds first hcs hmem
    obtain ⟨front, hfront, hafter⟩ := exists_front_of_mem_innerSteps [] hmem
    refine ⟨first ++ front, by rw [hcs, hfront, List.append_assoc], ?_⟩
    exact hafter.imp_right .inl
  unfold steps at h
  split at h
  · rename_i rest
    rcases List.mem_cons.1 h with heq | h
    · cases heq
      exact ⟨['/'], rfl, .inr (.inr rfl)⟩
    · exact hinner ['/'] rfl h
  · cases List.mem_singleton.1 h
    exact ⟨['.'], rfl, .inl rfl⟩
  · rename_i rest
    rcases List.mem_cons.1 h with heq | h
    · cases heq
      exact ⟨['.'], rfl, .inr (.inl ⟨rest, rfl⟩)⟩
    · exact hinner ['.'] rfl h
  · exact hinner [] rfl h

/-- A text that ends before a slash, or at the first one, has the first components of the whole. -/
theorem components_front {p q : Path} {after : List Char}
    (hp : p.text.toList = q.text.toList ++ after)
    (hafter : after = [] ∨ (∃ rest, after = '/' :: rest) ∨ q.text.toList = ['/'])
    (hq : q.text.toList ≠ []) : q.components <+: p.components := by
  rw [components_eq, components_eq, hp]
  rcases hafter with rfl | ⟨rest, rfl⟩ | hroot
  · simp only [List.append_nil, List.prefix_rfl]
  · rw [lead_append_slash rest (.inl rfl) hq, Text.pieces_append, List.filterMap_append,
      ← List.append_assoc]
    exact List.prefix_append _ _
  · rw [hroot]
    exact List.prefix_append [Component.root] _

theorem components_empty : Path.components ⟨""⟩ = [] := rfl

/-- The directories that hold a path have the first of its components. -/
theorem components_of_mem_holders {p q : Path} {cs : List (Component × List Char)}
    (hcs : ∀ c ∈ cs, c ∈ steps p.text.toList) (h : q ∈ holders p.text.toList cs) :
    q.components <+: p.components := by
  induction cs using holders.induct with
  | case1 => cases h
  | case2 after => cases h
  | case3 c hroot =>
      rw [holders] at h
      · rw [List.mem_singleton.1 h, components_empty]
        exact List.nil_prefix
      · exact hroot
  | case4 first c after rest ih =>
      rw [holders] at h
      rcases List.mem_cons.1 h with rfl | h
      · obtain ⟨front, hfront, hafter⟩ :=
          exists_front_of_mem_steps (hcs _ (List.mem_cons_of_mem _ (List.mem_cons_self ..)))
        have htake : p.text.toList.take (p.text.toList.length - after.length) = front := by
          rw [hfront, List.length_append, Nat.add_sub_cancel, List.take_left]
        rw [htake]
        by_cases hne : front = []
        · rw [hne]
          exact List.nil_prefix
        · exact components_front (by rw [String.toList_ofList]; exact hfront)
            (by rw [String.toList_ofList]; exact hafter) (by rwa [String.toList_ofList])
      · exact ih (fun c hc => hcs c (List.mem_cons_of_mem _ hc)) h

theorem components_of_mem_ancestors {p q : Path} (h : q ∈ p.ancestors) :
    q.components <+: p.components := by
  rcases List.mem_cons.1 h with rfl | h
  · exact List.prefix_refl _
  · exact components_of_mem_holders (fun c hc => List.mem_reverse.1 hc) h

end Path

namespace Disk

variable {d e : Disk}

/-! ## Making directories -/

/-- What is missing is the entry of a directory that a name leads to. -/
theorem step_eq_notFound {place : Location} {piece : List Char}
    (h : d.step place piece = .error .notFound) :
    Path.ofPiece? piece = some (.name (String.ofList piece)) ∧
      d.tree.find? (place ++ [String.ofList piece]) = none ∧ d.tree.hasDirectory place = true := by
  rw [step] at h
  split at h
  · cases h
  · rename_i hdir
    have hdirectory : d.tree.hasDirectory place = true := by simpa using hdir
    split at h
    · cases h
    · rename_i hhere
      rw [not_or] at hhere
      have hsome : (piece.isEmpty || piece == ['.']) = false := by
        rw [Bool.or_eq_false_iff, List.isEmpty_eq_false_iff, beq_eq_false_iff_ne]
        exact hhere
      split at h
      · cases h
      · rename_i hup
        dsimp only at h
        split at h
        · cases h
        · split at h
          · cases h
          · rename_i hmissing
            refine ⟨?_, by simpa using hmissing, hdirectory⟩
            rw [Path.ofPiece?, hsome, beq_eq_false_iff_ne.2 hup]
            rfl

theorem adds_putDirectory {place : Location} {name : String}
    (hdir : d.tree.hasDirectory place = true) (hnone : d.tree.find? (place ++ [name]) = none) :
    Adds (· = place ++ [name]) d (d.put (place ++ [name]) (.directory [])) := by
  refine adds_put (fun _ => by rwa [List.dropLast_concat]) hnone fun rest hrest => ?_
  cases rest with
  | nil => exact absurd rfl hrest
  | cons name rest => rfl

theorem hasDirectory_putDirectory {place : Location} (name : String)
    (hdir : d.tree.hasDirectory place = true) :
    (d.put (place ++ [name]) (.directory [])).tree.hasDirectory (place ++ [name]) = true := by
  have hway : place ++ [name] ≠ [] → d.tree.hasDirectory (place ++ [name]).dropLast = true := by
    intro _
    rwa [List.dropLast_concat]
  have hfound : (d.tree.put (place ++ [name]) (.directory [])).find? (place ++ [name] ++ []) = _ :=
    FileTree.find?_put hway
  rw [List.append_nil] at hfound
  rw [put, FileTree.hasDirectory, hfound]
  rfl

/-- What was missing is there once the directory that it names is made. -/
theorem step_put_of_notFound {place : Location} {piece : List Char}
    (h : d.step place piece = .error .notFound) :
    (d.put (place ++ [String.ofList piece]) (.directory [])).step place piece =
      .ok (place ++ [String.ofList piece]) := by
  obtain ⟨-, hnone, hdir⟩ := step_eq_notFound h
  have hmade : ((d.put (place ++ [String.ofList piece]) (.directory [])).tree.find?
      (place ++ [String.ofList piece])).isSome := by
    obtain ⟨t, ht, -⟩ :=
      (Option.any_eq_true _ _).1 (hasDirectory_putDirectory (String.ofList piece) hdir)
    exact Option.isSome_of_eq_some ht
  rw [step] at h ⊢
  rw [hdir] at h
  rw [(adds_putDirectory hdir hnone).hasDirectory hdir]
  split at h
  · cases h
  · split at h
    · cases h
    · rename_i hhere
      rw [if_neg (by decide), if_neg hhere]
      split at h
      · cases h
      · rename_i hup
        rw [if_neg hup]
        dsimp only at h ⊢
        split at h
        · cases h
        · rename_i hshort
          rw [if_neg hshort, if_pos hmade]

/-- The pieces of a path up to its last one that is not empty, and the empty ones behind that. -/
theorem pieces_of_dropWhile {pieces before : List (List Char)} {last : List Char}
    (h : pieces.reverse.dropWhile (·.isEmpty) = last :: before) :
    ∃ behind, (∀ piece ∈ behind, piece = []) ∧ pieces = before.reverse ++ last :: behind := by
  refine ⟨(pieces.reverse.takeWhile (·.isEmpty)).reverse, fun piece hpiece => ?_, ?_⟩
  · have hall :=
      List.all_takeWhile (p := fun piece : List Char => piece.isEmpty) (l := pieces.reverse)
    exact List.isEmpty_iff.1 (List.all_eq_true.1 hall piece (List.mem_reverse.1 hpiece))
  · have hsplit := List.takeWhile_append_dropWhile (p := fun piece : List Char => piece.isEmpty)
      (l := pieces.reverse)
    rw [h] at hsplit
    have hreverse := congrArg List.reverse hsplit
    rw [List.reverse_reverse, List.reverse_append, List.reverse_cons, List.append_assoc] at hreverse
    exact hreverse.symm

/-- Empty pieces at the end of a path lead nowhere else. -/
theorem walk_of_forall_nil {place : Location} {pieces : List (List Char)}
    (hdir : d.tree.hasDirectory place = true) (h : ∀ piece ∈ pieces, piece = []) :
    d.walk place pieces = .ok place := by
  induction pieces with
  | nil => rfl
  | cons piece pieces ih =>
      obtain ⟨rfl, hpieces⟩ := List.forall_mem_cons.1 h
      have hstep : d.step place [] = .ok place := by simp [step, hdir]
      rw [walk, hstep]
      exact ih hpieces

/--
A directory is made where the last name of its path leads, if nothing is there yet and the way is.
The path leads to it then.
-/
theorem makeDirectory_eq_ok {p : Path} (h : d.makeDirectory p = .ok e) :
    ∃ cs name, p.components = cs ++ [.name name] ∧
      Adds (· = placeOf d.here cs ++ [name]) d e ∧ e.isDirectory p = true := by
  rw [makeDirectory] at h
  split at h
  · cases h
  · rename_i pieces hpieces
    split at h
    · cases h
    · rename_i last before hlast
      split at h
      · cases h
      · rename_i place hplace
        split at h
        · cases h
        · rename_i hmissing
          obtain rfl := Except.ok.inj h
          obtain ⟨hname, hnone, hdir⟩ := step_eq_notFound hmissing
          obtain ⟨behind, hbehind, hwhole⟩ := pieces_of_dropWhile hlast
          have hempty : behind.filterMap Path.ofPiece? = [] := by
            refine List.filterMap_eq_nil_iff.2 fun piece hpiece => ?_
            rw [hbehind piece hpiece]
            rfl
          have hadds := adds_putDirectory hdir hnone
          have hmade := hasDirectory_putDirectory (String.ofList last) hdir
          have hlocate : (d.put (place ++ [String.ofList last]) (.directory [])).locate p =
              .ok (place ++ [String.ofList last]) := by
            rw [locate, hpieces]
            show Disk.walk _ (d.start p) pieces = _
            rw [hwhole, walk_append, hadds.walk hplace]
            show Disk.walk _ place (last :: behind) = _
            rw [walk, step_put_of_notFound hmissing]
            exact walk_of_forall_nil hmade hbehind
          refine ⟨Path.lead p.text.toList ++ before.reverse.filterMap Path.ofPiece?,
            String.ofList last, ?_, ?_, ?_⟩
          · rw [Path.components_eq, ← (piecesOf_eq_ok.1 hpieces).2.2, hwhole, List.filterMap_append,
              List.filterMap_cons_some hname, hempty, List.append_assoc]
          · rw [placeOf_append, placeOf_lead, ← walk_eq_ok_placeOf hplace]
            exact hadds
          · rw [isDirectory, hlocate]
            exact hmade
        · cases h

/-- Where a path leads already, no directory is made. -/
theorem makeDirectory_of_locate {p : Path} {place : Location} (h : d.locate p = .ok place) :
    d.makeDirectory p = .error .alreadyExists := by
  rw [locate] at h
  split at h
  · rename_i pieces hpieces
    rw [makeDirectory, hpieces]
    dsimp only
    split
    · rfl
    · rename_i last before hlast
      obtain ⟨behind, -, hwhole⟩ := pieces_of_dropWhile hlast
      rw [hwhole, walk_append] at h
      split
      · rename_i e heq
        rw [heq] at h
        cases h
      · rename_i q heq
        rw [heq] at h
        have hrest : d.walk q (last :: behind) = .ok place := h
        rw [walk] at hrest
        split
        · rfl
        · rename_i hmissing
          rw [hmissing] at hrest
          cases hrest
        · rename_i e _ hmissing
          rw [hmissing] at hrest
          cases hrest
  · cases h

/-- Directories that hold one the other are made at places that the path names on its way. -/
theorem adds_makeFirst {here : Location} {p : Path} {ps : List Path}
    (hps : ∀ q ∈ ps, q.components <+: p.components) : ∀ {d : Disk}, d.here = here →
      Adds (Names here p) d (makeFirst ps d).2 := by
  have hmade : ∀ {q : Path} {d e : Disk}, q.components <+: p.components → d.here = here →
      d.makeDirectory q = .ok e → Adds (Names here p) d e := by
    rintro q d e hq rfl h
    obtain ⟨cs, name, hcs, hadds, -⟩ := makeDirectory_eq_ok h
    rw [hcs] at hq
    exact hadds.mono fun place hplace => ⟨cs, name, hq, hplace⟩
  induction ps with
  | nil =>
      intro d _
      exact .refl _ _
  | cons q ps ih =>
      intro d hhere
      obtain ⟨hq, hrest⟩ := List.forall_mem_cons.1 hps
      rw [makeFirst]
      split
      · exact .refl _ _
      · split
        · rename_i hmake
          exact hmade hq hhere hmake
        · have hbefore := ih hrest hhere
          split
          · rename_i hfirst
            rw [hfirst] at hbefore
            exact hbefore
          · rename_i e hfirst
            rw [hfirst] at hbefore
            refine hbefore.trans ?_
            rw [makeFirst.again]
            split
            · rename_i hmake
              exact hmade hq (hbefore.here.trans hhere) hmake
            · split <;> exact .refl _ _
        · split <;> exact .refl _ _

/--
A directory and those that have to be made for it are made at places that its path names on its way.
-/
theorem adds_makeDirectories (d : Disk) (p : Path) :
    Adds (Names d.here p) d (d.makeDirectories p).2 :=
  adds_makeFirst (fun _ hq => Path.components_of_mem_ancestors hq) rfl

/-- A directory that has been made is there. -/
theorem isDirectory_of_makeDirectories {p : Path} (h : d.makeDirectories p = (.ok (), e))
    (hp : p.text.isEmpty = false) : e.isDirectory p = true := by
  rw [makeDirectories, Path.ancestors, makeFirst, hp, if_neg Bool.false_ne_true] at h
  split at h
  · rename_i hmake
    cases h
    obtain ⟨-, -, -, -, hdir⟩ := makeDirectory_eq_ok hmake
    exact hdir
  · split at h
    · cases h
    · rw [makeFirst.again] at h
      split at h
      · rename_i hmake
        cases h
        obtain ⟨-, -, -, -, hdir⟩ := makeDirectory_eq_ok hmake
        exact hdir
      · split at h
        · rename_i hdir
          cases h
          exact hdir
        · cases h
  · split at h
    · rename_i hdir
      cases h
      exact hdir
    · cases h

/-- Nothing has to be made for a directory that is there. -/
theorem makeDirectories_of_isDirectory {p : Path} (h : d.isDirectory p = true) :
    d.makeDirectories p = (.ok (), d) := by
  rw [makeDirectories, Path.ancestors, makeFirst]
  split
  · rfl
  · have hsome : d.makeDirectory p = .error .alreadyExists := by
      rw [isDirectory] at h
      split at h
      · rename_i place hplace
        exact makeDirectory_of_locate hplace
      · cases h
    rw [hsome]

/-- A file that was written is found at its place. -/
theorem find?_writeText {place : Location} {text : String} (h : d.writeText place text = .ok e) :
    e.tree.find? place = some (.file (.text text)) := by
  rw [writeText] at h
  split at h
  · cases h
  · rename_i hdir
    split at h
    · cases h
    · obtain rfl := Except.ok.inj h
      have hfound : (d.tree.put place (.file (.text text))).find? (place ++ []) = _ :=
        FileTree.find?_put fun _ => by simpa using hdir
      rwa [List.append_nil] at hfound

/-- A new file adds nothing but itself. -/
theorem adds_writeText {place : Location} {text : String} (h : d.writeText place text = .ok e)
    (hmissing : d.tree.find? place = none) : Adds (· = place) d e := by
  rw [writeText] at h
  split at h
  · cases h
  · rename_i hdir
    split at h
    · cases h
    · obtain rfl := Except.ok.inj h
      refine adds_put (fun _ => by simpa using hdir) hmissing ?_
      intro rest hrest
      cases rest with
      | nil => exact absurd rfl hrest
      | cons name rest => rfl

end Disk
end WorkItems
