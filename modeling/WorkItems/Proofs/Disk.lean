import WorkItems.Proofs.Path
import WorkItems.Run
/-!
# Where paths lead

Following a path with names behind it is following the path and then the names, one directory after
the other, whatever form the path was given in. A path that leads to a file below the root of a
project can be written. Rewriting files moves nothing: paths lead where they led before.
-/

namespace WorkItems

namespace Disk

/-- A disk as there are some: the top is a directory, and every name is one that a file can have. -/
structure IsSound (d : Disk) : Prop where
  top : d.tree.isDirectory = true
  tree : d.tree.WellFormed

/-- The disk with new texts for the files for which there are some. -/
def rewriteFiles (d : Disk) (new : Location → Option String) : Disk :=
  { d with tree := d.tree.rewrite new [] }

variable {d : Disk} {new : Location → Option String}

/-! ## Following paths -/

theorem walk_append (place : Location) (xs ys : List (List Char)) :
    d.walk place (xs ++ ys) = (d.walk place xs).bind (d.walk · ys) := by
  induction xs generalizing place with
  | nil => rfl
  | cons x xs ih =>
      rw [List.cons_append, walk, walk]
      cases d.step place x with
      | error e => rfl
      | ok next => exact ih next

theorem step_rewriteFiles (place : Location) (piece : List Char) :
    (d.rewriteFiles new).step place piece = d.step place piece := by
  simp only [step, rewriteFiles, FileTree.hasDirectory_rewrite, FileTree.isSome_find?_rewrite]

theorem walk_rewriteFiles (place : Location) (pieces : List (List Char)) :
    (d.rewriteFiles new).walk place pieces = d.walk place pieces := by
  induction pieces generalizing place with
  | nil => rfl
  | cons piece pieces ih =>
      rw [walk, walk, step_rewriteFiles]
      cases d.step place piece with
      | error e => rfl
      | ok next => exact ih next

/-- Paths lead where they led before files were rewritten. -/
theorem locate_rewriteFiles (p : Path) : (d.rewriteFiles new).locate p = d.locate p := by
  rw [locate, locate]
  cases piecesOf p with
  | error e => rfl
  | ok pieces => exact walk_rewriteFiles (d.start p) pieces

theorem walk_singleton (place : Location) (piece : List Char) :
    d.walk place [piece] = d.step place piece := by
  rw [walk]
  cases d.step place piece with
  | error e => rfl
  | ok next => rfl

/-- An empty piece, as two slashes in a row have it between them, leads nowhere else. -/
theorem step_nil_piece (place : Location) (piece : List Char) :
    (d.step place []).bind (d.step · piece) = d.step place piece := by
  by_cases hdir : d.tree.hasDirectory place = true
  · have hhere : d.step place [] = .ok place := by simp [step, hdir]
    rw [hhere]
    rfl
  · simp only [step, hdir]
    rfl

/-! ## The way down to a file -/

/-- From a directory a name leads down, if anything has it. -/
theorem step_of_isFileName {place : Location} {name : String} (hname : IsFileName name) :
    d.step place name.toList =
      if d.tree.hasDirectory place then
        if (d.tree.find? (place ++ [name])).isSome then .ok (place ++ [name]) else .error .notFound
      else .error .notDirectory := by
  have hne : ∀ text : String, name ≠ text → name.toList ≠ text.toList :=
    fun text h heq => h (String.toList_injective heq)
  have hempty : ¬(name.toList = [] ∨ name.toList = ['.']) :=
    not_or.2 ⟨hne "" hname.ne_empty, hne "." hname.ne_dot⟩
  have hdots : name.toList ≠ ['.', '.'] := hne ".." hname.ne_dots
  rw [step, if_neg hempty, if_neg hdots]
  simp only [String.ofList_toList]
  rw [if_neg (Nat.not_lt.2 hname.short)]
  cases d.tree.hasDirectory place <;> rfl

/-- A name leads down from a directory to its entry. -/
theorem step_name {place : Location} {es : List (String × FileTree)} {name : String} {t : FileTree}
    (hplace : d.tree.find? place = some (.directory es)) (hname : IsFileName name)
    (ht : Entries.find? name es = some t) : d.step place name.toList = .ok (place ++ [name]) := by
  have hdir : d.tree.hasDirectory place = true := by
    rw [FileTree.hasDirectory, hplace]
    rfl
  have hfind : d.tree.find? (place ++ [name]) = some t := by
    rw [FileTree.find?_append, hplace, Option.bind_some, FileTree.find?, ht]
    rfl
  rw [step_of_isFileName hname, hdir, hfind]
  rfl

theorem step_eq_ok {place q : Location} {name : String} (hname : IsFileName name)
    (h : d.step place name.toList = .ok q) : q = place ++ [name] := by
  rw [step_of_isFileName hname] at h
  split at h
  · split at h
    · exact (Except.ok.inj h).symm
    · cases h
  · cases h

/-- The names of a way down lead down that way. -/
theorem walk_names {place rest : Location} {t u : FileTree} (hplace : d.tree.find? place = some t)
    (ht : t.WellFormed) (hrest : t.find? rest = some u) :
    d.walk place (rest.map String.toList) = .ok (place ++ rest) := by
  induction rest generalizing place t with
  | nil => rw [List.append_nil]; rfl
  | cons name rest ih =>
      cases t with
      | file c => cases hrest
      | directory es =>
          rw [FileTree.find?] at hrest
          obtain ⟨v, hv, hrest⟩ := Option.bind_eq_some_iff.1 hrest
          obtain ⟨hname, hwell⟩ := FileTree.wellFormed_of_find? ht.2 hv
          have hnext : d.tree.find? (place ++ [name]) = some v := by
            rw [FileTree.find?_append, hplace, Option.bind_some, FileTree.find?, hv]
            rfl
          have h := ih hnext hwell hrest
          rw [List.append_assoc] at h
          rw [List.map_cons, walk, step_name hplace hname hv]
          exact h

/-- Names lead nowhere else than down, one after the other. -/
theorem walk_names_eq_ok {place rest q : Location} (hrest : ∀ name ∈ rest, IsFileName name)
    (h : d.walk place (rest.map String.toList) = .ok q) : q = place ++ rest := by
  induction rest generalizing place with
  | nil => exact (Except.ok.inj h).symm.trans (List.append_nil _).symm
  | cons name rest ih =>
      obtain ⟨hname, hrest⟩ := List.forall_mem_cons.1 hrest
      rw [List.map_cons, walk] at h
      split at h
      · rename_i next hstep
        rw [ih hrest h, step_eq_ok hname hstep, List.append_assoc]
        rfl
      · cases h

/-! ## Names behind a path -/

theorem piecesOf_eq_ok {p : Path} {pieces : List (List Char)} :
    piecesOf p = .ok pieces ↔
      '\x00' ∉ p.text.toList ∧ p.text.toList ≠ [] ∧ pieces = Text.pieces '/' p.text.toList := by
  simp only [piecesOf]
  split
  · rename_i hzero
    simp_all
  · split
    · rename_i hempty
      simp_all
    · rename_i hzero hempty
      constructor
      · rintro ⟨⟩
        simp_all
      · rintro ⟨-, -, rfl⟩
        rfl

theorem piecesOf_of_zero {p : Path} (h : '\x00' ∈ p.text.toList) :
    piecesOf p = .error .zeroInName := by
  simp only [piecesOf, List.contains_eq_mem, h, decide_true, if_true]

/-- Following a path with a name behind it is following the path and then the name. -/
theorem locate_join {p : Path} {name : String} (hp : p.text.toList ≠ []) (hname : IsFileName name) :
    d.locate (p.join name) = (d.locate p).bind (d.step · name.toList) := by
  obtain ⟨front, htext, hfront⟩ := Path.join_text hp hname.noSlash
  have hmem : ∀ c, c ∈ p.text.toList → c ∈ front ∨ c = '/' := by
    intro c hc
    rcases hfront with heq | heq
    · exact .inl (heq ▸ hc)
    · simpa [heq] using hc
  by_cases hzero : '\x00' ∈ p.text.toList
  · have hjoined : '\x00' ∈ (p.join name).text.toList := by
      rw [htext]
      exact List.mem_append_left _ ((hmem _ hzero).resolve_right (by decide))
    rw [locate, locate, piecesOf_of_zero hzero, piecesOf_of_zero hjoined]
    rfl
  · have hsub : front ⊆ p.text.toList := by
      rcases hfront with heq | heq <;> simp [heq]
    have hpieces : piecesOf p = .ok (Text.pieces '/' p.text.toList) :=
      piecesOf_eq_ok.2 ⟨hzero, hp, rfl⟩
    have hjoined : piecesOf (p.join name) = .ok (Text.pieces '/' front ++ [name.toList]) := by
      refine piecesOf_eq_ok.2 ⟨?_, Path.join_ne_nil hp name, ?_⟩
      · rw [htext, List.mem_append, List.mem_cons]
        rintro (h | h | h)
        · exact hzero (hsub h)
        · cases h
        · exact hname.noZero h
      · rw [htext, Text.pieces_append, Text.pieces_of_not_mem hname.noSlash]
    have hstart : d.start (p.join name) = d.start p := by
      have hhead : (front ++ '/' :: name.toList).head? = p.text.toList.head? := by
        rcases hfront with heq | heq
        · cases front with
          | nil => exact absurd heq hp
          | cons c front => rw [heq]; rfl
        · cases front <;> rw [heq] <;> rfl
      rw [start, start, Path.isAbsolute, Path.isAbsolute, htext, hhead]
    rw [locate, locate, hjoined, hpieces, hstart]
    change d.walk (d.start p) (Text.pieces '/' front ++ [name.toList]) =
      (d.walk (d.start p) (Text.pieces '/' p.text.toList)).bind (d.step · name.toList)
    simp only [walk_append, walk_singleton]
    rcases hfront with heq | heq
    · rw [heq]
    · -- The piece behind the last slash is empty.
      rw [heq, Text.pieces_append, walk_append]
      cases d.walk (d.start p) (Text.pieces '/' front) with
      | error e => rfl
      | ok place => exact ((congrArg (Except.bind · _) (walk_singleton place [])).trans
          (step_nil_piece place name.toList)).symm

/-- Following a path with names behind it is following the path and then the names. -/
theorem locate_foldl_join_eq {p : Path} {rest : Location} (hp : p.text.toList ≠ [])
    (hrest : ∀ name ∈ rest, IsFileName name) :
    d.locate (rest.foldl Path.join p) = (d.locate p).bind (d.walk · (rest.map String.toList)) := by
  induction rest generalizing p with
  | nil =>
      cases h : d.locate p with
      | error e => rw [List.foldl_nil, h]; rfl
      | ok place => rw [List.foldl_nil, h]; rfl
  | cons name rest ih =>
      obtain ⟨hname, hrest⟩ := List.forall_mem_cons.1 hrest
      rw [List.foldl_cons, ih (Path.join_ne_nil hp name) hrest, locate_join hp hname]
      cases d.locate p with
      | error e => rfl
      | ok place =>
          change (d.step place name.toList).bind _ = d.walk place (name.toList :: _)
          rw [walk]
          cases d.step place name.toList with
          | error e => rfl
          | ok next => rfl

/-- A path that leads somewhere is not the empty one. -/
theorem ne_nil_of_locate {p : Path} {place : Location} (h : d.locate p = .ok place) :
    p.text.toList ≠ [] := by
  intro hnil
  rw [locate, piecesOf, hnil] at h
  cases h

/-- A path with the names of a way down behind it leads where that way leads. -/
theorem locate_foldl_join {p : Path} {place rest : Location} {t u : FileTree}
    (hp : d.locate p = .ok place) (hplace : d.tree.find? place = some t) (ht : t.WellFormed)
    (hrest : t.find? rest = some u) : d.locate (rest.foldl Path.join p) = .ok (place ++ rest) := by
  rw [locate_foldl_join_eq (ne_nil_of_locate hp) (FileTree.isFileName_of_find? ht hrest), hp]
  exact walk_names hplace ht hrest

/-! ## What lies at a place -/

theorem get_eq_ok {p : Path} {t : FileTree} :
    d.get p = .ok t ↔ ∃ place, d.locate p = .ok place ∧ d.tree.find? place = some t := by
  rw [get]
  cases d.locate p with
  | error e => exact ⟨fun h => (nomatch h), fun ⟨_, h, _⟩ => (nomatch h)⟩
  | ok place =>
      constructor
      · intro h
        cases hfind : d.tree.find? place with
        | none =>
            simp only [hfind] at h
            cases h
        | some u =>
            simp only [hfind] at h
            exact ⟨place, rfl, hfind.trans (congrArg some (Except.ok.inj h))⟩
      · rintro ⟨_, ⟨⟩, h⟩
        simp only [h]
        rfl

/-- A text is read where a path leads to a file that holds it. -/
theorem readText_eq_ok {p : Path} {text : String} :
    d.readText p = .ok text ↔
      ∃ place, d.locate p = .ok place ∧ d.tree.find? place = some (.file (.text text)) := by
  rw [← get_eq_ok, readText]
  cases d.get p with
  | error e => simp
  | ok t =>
      cases t with
      | directory es => simp
      | file c => cases c <;> simp

theorem leadsSomewhere_of_readText {p : Path} {text : String} (h : d.readText p = .ok text) :
    d.leadsSomewhere p = true := by
  obtain ⟨place, hplace, -⟩ := readText_eq_ok.1 h
  rw [leadsSomewhere, hplace]
  rfl

/-- A path leads to a file at a place below `top`. -/
def LeadsToFile (d : Disk) (top : Location) (p : Path) (place : Location) : Prop :=
  d.locate p = .ok place ∧ top <+: place ∧ ∃ c, d.tree.find? place = some (.file c)

/-- What is found in a well-formed tree is well-formed. -/
theorem IsSound.wellFormed_of_find? (hd : d.IsSound) {place : Location} {t : FileTree}
    (h : d.tree.find? place = some t) : t.WellFormed := by
  have key : ∀ (place : Location) (u : FileTree), u.WellFormed → u.find? place = some t →
      t.WellFormed := by
    intro place
    induction place with
    | nil =>
        rintro u hu ⟨⟩
        exact hu
    | cons name rest ih =>
        intro u hu hfind
        cases u with
        | file c => cases hfind
        | directory es =>
            rw [FileTree.find?] at hfind
            obtain ⟨v, hv, hfind⟩ := Option.bind_eq_some_iff.1 hfind
            exact ih v (FileTree.wellFormed_of_find? hu.2 hv).2 hfind
  exact key place d.tree hd.tree h

/-! ## Writing -/

theorem find?_rewriteFiles {c : Content} (h : d.tree.find? place = some (.file c)) :
    (d.rewriteFiles new).tree.find? place = some (.file ((new place).elim c .text)) := by
  rw [rewriteFiles, FileTree.find?_rewrite, h, Option.map_some, FileTree.rewrite, List.nil_append]

theorem get_rewriteFiles {c : Content} (hp : d.locate p = .ok place)
    (h : d.tree.find? place = some (.file c)) :
    (d.rewriteFiles new).get p = .ok (.file ((new place).elim c .text)) :=
  get_eq_ok.2 ⟨place, (locate_rewriteFiles p).trans hp, find?_rewriteFiles h⟩

/-- The new texts with one more. -/
def overwrite (new : Location → Option String) (place : Location) (text : String) :
    Location → Option String :=
  fun p => if p = place then some text else new p

/-- The place around a file is a directory. -/
theorem hasDirectory_dropLast (hd : d.IsSound) {place : Location} {c : Content}
    (h : d.tree.find? place = some (.file c)) : d.tree.hasDirectory place.dropLast = true := by
  rcases List.eq_nil_or_concat place with rfl | ⟨around, name, rfl⟩
  · have htop := hd.top
    rw [FileTree.find?] at h
    rw [Option.some.inj h] at htop
    cases htop
  · rw [List.concat_eq_append, FileTree.find?_append] at h
    obtain ⟨t, ht, hname⟩ := Option.bind_eq_some_iff.1 h
    rw [List.concat_eq_append, List.dropLast_concat, FileTree.hasDirectory, ht]
    cases t with
    | file c => cases hname
    | directory es => rfl

theorem writeText_rewriteFiles (hd : d.IsSound) {place : Location} {c : Content}
    (h : d.tree.find? place = some (.file c)) (text : String) :
    (d.rewriteFiles new).writeText place text =
      .ok (d.rewriteFiles (overwrite new place text)) := by
  have haround : (d.rewriteFiles new).tree.hasDirectory place.dropLast = true := by
    rw [rewriteFiles, FileTree.hasDirectory_rewrite]
    exact hasDirectory_dropLast hd h
  have hfile : (d.rewriteFiles new).tree.hasDirectory place = false := by
    rw [rewriteFiles, FileTree.hasDirectory_rewrite, FileTree.hasDirectory, h]
    rfl
  rw [writeText, haround, hfile, if_neg (by decide), if_neg (by decide), put, rewriteFiles,
    FileTree.put_rewrite [] place hd.tree h (if_pos rfl) fun p hp => (if_neg hp).symm]
  rfl

end Disk

/-- The file of a work item can be written, and then holds the document. -/
theorem Document.write_rewriteFiles {d : Disk} {new : Location → Option String} (hd : d.IsSound)
    {root p : Path} {top place : Location} (htop : d.locate root = .ok top)
    (hp : d.LeadsToFile top p place) (doc : Document) :
    doc.write (d.rewriteFiles new) root p =
      .ok (d.rewriteFiles (Disk.overwrite new place doc.render)) := by
  obtain ⟨hplace, hbelow, c, hfile⟩ := hp
  have hnew : (d.rewriteFiles new).locateNew p = .ok place := by
    rw [Disk.locateNew, Disk.leadsSomewhere, Disk.locate_rewriteFiles, hplace]
    rfl
  have hwithin : (d.rewriteFiles new).locateWithin root p = .ok place := by
    rw [Disk.locateWithin, Disk.locate_rewriteFiles, htop, hnew]
    exact if_pos (List.isPrefixOf_iff_prefix.2 hbelow)
  rw [Document.write, hwithin]
  show ((d.rewriteFiles new).writeText place doc.render).mapError RunError.file = _
  rw [Disk.writeText_rewriteFiles hd hfile]
  rfl

end WorkItems
