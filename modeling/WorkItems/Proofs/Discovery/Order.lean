import WorkItems.Proofs.Discovery
import WorkItems.Proofs.Text.Cuts
/-!
# The work items below a root in order

Which files below a directory are work items is said of the names on the way down to them alone
(`IsItemAt`): neither the name of the root nor what is around it counts. `FileTree.HasItem` says it
of a tree without following its listing.

Paths are ordered by their components and not by their texts: `a/1.md` comes before `a.b/2.md`,
though a dot comes before a slash. A tree is listed in that order without sorting. Entries are in
the order of their names and each is listed with all that is in it before the next one, so the ways
down come in the order of lists of names (`FileTree.pairwise_files`), and the path of the root in
front of them changes nothing (`Path.componentsLt_append`).
-/

namespace WorkItems

/-! ## The order of paths -/

namespace Path

theorem lt_self (c : Component) : c.lt c = false := by
  cases c with
  | name n => exact decide_eq_false (String.lt_irrefl n)
  | root => rfl
  | current => rfl
  | parent => rfl

/-- Components in common come before what tells paths apart. -/
theorem componentsLt_append (front cs ds : List Component) :
    componentsLt (front ++ cs) (front ++ ds) = componentsLt cs ds := by
  induction front with
  | nil => rfl
  | cons c front ih => simp [componentsLt, lt_self, ih]

theorem componentsLt_self (cs : List Component) : componentsLt cs cs = false := by
  induction cs with
  | nil => rfl
  | cons c cs ih => simp [componentsLt, lt_self, ih]

/-- Ways by names are compared name by name. -/
theorem componentsLt_map_name (place other : Location) :
    componentsLt (place.map .name) (other.map .name) = true ↔ place < other := by
  induction place generalizing other with
  | nil => cases other <;> simp [componentsLt]
  | cons name place ih =>
      cases other with
      | nil => simp [componentsLt]
      | cons first other =>
          rw [List.cons_lt_cons_iff, ← ih other]
          simp [componentsLt, Component.lt]

end Path

/-! ## The order of the files of a tree -/

theorem append_lt_append_left {place : Location} {rest other : Location} (h : rest < other) :
    place ++ rest < place ++ other := by
  induction place with
  | nil => exact h
  | cons name place ih => exact List.cons_lt_cons_iff.2 (.inr ⟨rfl, ih⟩)

namespace FileTree

mutual

theorem pairwise_listing : ∀ (t : FileTree) (place : Location), t.WellFormed →
    ((t.listing place).map (·.1)).Pairwise (· < ·)
  | file c, place, _ => by
      rw [listing]
      exact List.pairwise_singleton ..
  | directory es, place, ht => by
      rw [listing, List.map_cons]
      refine List.pairwise_cons.2 ⟨fun q hq => ?_, pairwise_listingOf es place ht.1 ht.2⟩
      obtain ⟨e, he, rfl⟩ := List.mem_map.1 hq
      obtain ⟨name, -, rest, heq, -⟩ := (listingOf_spec es place ht.1 ht.2).2 e he
      have hlt : place ++ [] < place ++ name :: rest := append_lt_append_left (List.nil_lt_cons ..)
      rwa [List.append_nil, ← heq] at hlt

theorem pairwise_listingOf : ∀ (es : List (String × FileTree)) (place : Location),
    Entries.Sorted es → WellFormedEntries es → ((listingOf place es).map (·.1)).Pairwise (· < ·)
  | [], place, _, _ => by
      rw [listingOf]
      exact List.Pairwise.nil
  | (name, t) :: es, place, hsorted, hes => by
      obtain ⟨hhead, hsorted⟩ := List.pairwise_cons.1 hsorted
      rw [listingOf, List.map_append]
      refine List.pairwise_append.2 ⟨pairwise_listing t _ hes.2.1,
        pairwise_listingOf es place hsorted hes.2.2, fun p hp q hq => ?_⟩
      obtain ⟨e, he, rfl⟩ := List.mem_map.1 hp
      obtain ⟨f, hf, rfl⟩ := List.mem_map.1 hq
      obtain ⟨rest, heq, -⟩ := (listing_spec t (place ++ [name]) hes.2.1).2 e he
      obtain ⟨k, u, other, heq', hu, -⟩ := (listingOf_spec es place hsorted hes.2.2).2 f hf
      rw [heq, heq', List.append_assoc]
      -- The ways part at the names of the two entries, and the later entry has the greater name.
      refine append_lt_append_left (List.cons_lt_cons_iff.2 (.inl ?_))
      exact hhead _ (Entries.mem_of_find? hu)

end

/-- The files of a tree are listed in the order of the ways down to them. -/
theorem pairwise_files {t : FileTree} (ht : t.WellFormed) : t.files.Pairwise (· < ·) := by
  rw [files]
  exact (pairwise_listing t [] ht).sublist (List.filter_sublist.map _)

end FileTree

/-! ## Names of work items -/

theorem occursIn_iff {needle cs : List Char} : occursIn needle cs = true ↔ needle <:+: cs := by
  induction cs with
  | nil => simp [occursIn]
  | cons c cs ih =>
      rw [occursIn, Bool.or_eq_true, ih, List.isPrefixOf_iff_prefix, List.infix_cons_iff]

/-- What stands behind the last dot of a name, if something stands before that dot. -/
theorem Path.extension?_eq {name : String} :
    Path.extension? name =
      if name = ".." then none
      else (Text.cutAt? '.' name.toList.reverse).bind fun (back, front) =>
        if front = [] then none else some (String.ofList back.reverse) := by
  rw [Path.extension?, Text.cutAt?]
  by_cases hdots : name = ".."
  · rw [if_pos hdots, hdots]
    rfl
  · rw [if_neg hdots]
    rcases List.dropWhile (· != '.') name.toList.reverse with - | ⟨c, - | ⟨d, front⟩⟩
    · rfl
    · rfl
    · simp [hdots]

/-- An extension stands behind the last dot of a name, and something stands before that dot. -/
theorem Path.extension?_eq_some_iff {name extension : String} :
    Path.extension? name = some extension ↔
      name ≠ ".." ∧ '.' ∉ extension.toList ∧
        ∃ stem, stem ≠ "" ∧ name = stem ++ "." ++ extension := by
  rw [Path.extension?_eq]
  constructor
  · intro h
    split at h
    · cases h
    · rename_i hdots
      obtain ⟨⟨back, front⟩, hcut, h⟩ := Option.bind_eq_some_iff.1 h
      obtain ⟨hname, hback⟩ := Text.cutAt?_eq_some_iff.1 hcut
      dsimp only at h
      split at h
      · cases h
      · rename_i hfront
        obtain rfl := Option.some.inj h
        refine ⟨hdots, by simpa using hback, String.ofList front.reverse, by simpa using hfront, ?_⟩
        rw [List.reverse_eq_iff] at hname
        rw [← String.toList_inj, hname]
        simp
  · rintro ⟨hdots, hdot, stem, hstem, rfl⟩
    have hcut : Text.cutAt? '.' (stem ++ "." ++ extension).toList.reverse =
        some (extension.toList.reverse, stem.toList.reverse) :=
      Text.cutAt?_eq_some_iff.2 ⟨by simp, by simpa using hdot⟩
    rw [if_neg hdots, hcut]
    simpa using hstem

theorem isMarkdownName_iff {name : String} :
    isMarkdownName name = true ↔ ∃ stem, stem ≠ "" ∧ name = stem ++ ".md" := by
  rw [isMarkdownName, beq_iff_eq, Path.extension?_eq_some_iff, markdownExtension]
  constructor
  · rintro ⟨-, -, stem, hstem, rfl⟩
    exact ⟨stem, hstem, by rw [String.append_assoc]; rfl⟩
  · rintro ⟨stem, hstem, rfl⟩
    refine ⟨fun heq => ?_, by decide, stem, hstem, by rw [String.append_assoc]; rfl⟩
    have hlast := congrArg (·.toList.getLast?) heq
    simp at hlast

/-- A file is a work item for its name and the names of the directories on the way down to it. -/
structure IsItemAt (directories : Location) (name : String) : Prop where
  markdown : ∃ stem, stem ≠ "" ∧ name = stem ++ ".md"
  visible : ∀ directory ∈ directories, directory.toList.head? ≠ some '.'
  ne_ideas : name ≠ "IDEAS.md"
  noTemplate : ∀ n ∈ directories ++ [name], ¬"template".toList <:+: n.toList

theorem areExcluded_iff {directories : Location} {name : String} :
    areExcluded ((directories ++ [name]).map .name) = true ↔
      name = "IDEAS.md" ∨ ∃ n ∈ directories ++ [name], "template".toList <:+: n.toList := by
  rw [areExcluded, Bool.or_eq_true, List.any_map, List.any_eq_true, List.map_append,
    List.map_singleton, List.getLast?_concat, beq_iff_eq, Option.some_inj, Component.name.injEq]
  simp only [Function.comp_apply, mentionsTemplate, occursIn_iff]
  rfl

theorem isWorkItemAt_iff {directories : Location} {name : String} :
    isWorkItemAt (directories ++ [name]) = true ↔ IsItemAt directories name := by
  rw [isWorkItemAt, List.getLast?_concat, List.dropLast_concat, Option.any_some, Bool.and_eq_true,
    Bool.and_eq_true, Bool.not_eq_true', ← Bool.not_eq_true, Bool.not_eq_true', ← Bool.not_eq_true,
    isMarkdownName_iff, areExcluded_iff, List.any_eq_true]
  simp only [isHiddenName, beq_iff_eq, not_exists, not_and, not_or]
  constructor
  · rintro ⟨⟨hmarkdown, hvisible⟩, hideas, htemplate⟩
    exact ⟨hmarkdown, hvisible, hideas, htemplate⟩
  · rintro ⟨hmarkdown, hvisible, hideas, htemplate⟩
    exact ⟨⟨hmarkdown, hvisible⟩, hideas, htemplate⟩

/-! ## All work items of a root -/

namespace FileTree

/-- The tree has a file at a place where its names say that a work item can lie. -/
def HasItem (t : FileTree) (place : Location) : Prop :=
  (∃ c, t.find? place = some (.file c)) ∧
    ∃ directories name, place = directories ++ [name] ∧ IsItemAt directories name

theorem hasItem_iff {es : List (String × FileTree)} (ht : (directory es).WellFormed)
    {place : Location} :
    (directory es).HasItem place ↔ place ∈ (directory es).files.filter isWorkItemAt := by
  rw [List.mem_filter, mem_files ht, HasItem]
  refine and_congr_right fun ⟨c, hc⟩ => ?_
  rcases List.eq_nil_or_concat place with rfl | ⟨directories, name, rfl⟩
  · cases hc
  · rw [List.concat_eq_append, isWorkItemAt_iff]
    constructor
    · rintro ⟨directories', name', heq, h⟩
      obtain ⟨rfl, hlast⟩ := List.append_inj' heq rfl
      rwa [(List.cons.inj hlast).1]
    · exact fun h => ⟨directories, name, rfl, h⟩

end FileTree

namespace Disk

/--
The work items below a directory are the files that their names below it say, and their paths come
in strictly increasing order. What the directory holds says which they are, whatever path leads
there.
-/
theorem discover_exact {es : List (String × FileTree)} (ht : (FileTree.directory es).WellFormed) :
    ∃ places : List Location, (∀ place, place ∈ places ↔ (FileTree.directory es).HasItem place) ∧
      ∀ (d : Disk) (root : Path), d.get root = .ok (.directory es) →
        ∃ paths, d.discover root = .ok paths ∧
          paths = places.map (·.foldl Path.join root) ∧
          (∀ place ∈ places, ∃ c, (FileTree.directory es).find? place = some (.file c) ∧
            d.get (place.foldl Path.join root) = .ok (.file c)) ∧
          paths.map Path.components = places.map (fun place => root.components ++ place.map .name) ∧
          paths.Pairwise (fun p q => p.lt q = true) ∧ (paths.map Path.components).Nodup := by
  refine ⟨(FileTree.directory es).files.filter isWorkItemAt,
    fun place => (FileTree.hasItem_iff ht).symm, fun d root hget => ?_⟩
  obtain ⟨top, htop, hfind⟩ := get_eq_ok.1 hget
  have hfile : ∀ place ∈ (FileTree.directory es).files.filter isWorkItemAt,
      ∃ c, (FileTree.directory es).find? place = some (.file c) :=
    fun place hplace => (FileTree.mem_files ht).1 (List.mem_filter.1 hplace).1
  have hcomponents : ∀ place ∈ (FileTree.directory es).files.filter isWorkItemAt,
      (place.foldl Path.join root).components = root.components ++ place.map .name := by
    intro place hplace
    obtain ⟨c, hc⟩ := hfile place hplace
    exact components_item htop ht hc
  have hordered : (itemsBelow root (.directory es)).Pairwise fun p q => p.lt q = true := by
    rw [itemsBelow, List.pairwise_map]
    refine ((FileTree.pairwise_files ht).sublist List.filter_sublist).imp_of_mem ?_
    intro place other hplace hother h
    rw [Path.lt, hcomponents place hplace, hcomponents other hother, Path.componentsLt_append,
      Path.componentsLt_map_name]
    exact h
  refine ⟨_, discover_eq_ok.2 ⟨top, _, htop, hfind, rfl⟩, rfl, fun place hplace => ?_, ?_, hordered,
    ?_⟩
  · obtain ⟨c, hc⟩ := hfile place hplace
    exact ⟨c, hc, get_foldl_join hget ht hc⟩
  · rw [itemsBelow, List.map_map]
    exact List.map_congr_left hcomponents
  · refine List.pairwise_map.2 (hordered.imp fun h heq => ?_)
    rw [Path.lt, heq, Path.componentsLt_self] at h
    cases h

/--
Entries with all that is passed over. In the order of plain texts `a.b/2.md` would come first.
-/
def mixedEntries : List (String × FileTree) :=
  [(".git", .directory [("1.md", .file (.text ""))]), ("IDEAS.md", .file (.text "")),
    ("a", .directory [("1.md", .file (.text ""))]),
    ("a.b", .directory [("2.md", .file (.text "")), ("notes.txt", .file (.text ""))]),
    ("template.md", .file (.text ""))]

/-- A project below directories with names that would exclude it. -/
def mixed : Disk where
  tree := .directory [("templates", .directory [(".project", .directory mixedEntries)])]
  here := ["templates", ".project"]

/--
The way down to the project does not count, and the same work items come from another path to it.
-/
theorem discover_exact_mixed :
    (FileTree.directory mixedEntries).WellFormed ∧ mixed.get ⟨"."⟩ = .ok (.directory mixedEntries) ∧
      mixed.discover ⟨"."⟩ = .ok [⟨"./a/1.md"⟩, ⟨"./a.b/2.md"⟩] ∧
      mixed.discover ⟨"/templates/.project"⟩ =
        .ok [⟨"/templates/.project/a/1.md"⟩, ⟨"/templates/.project/a.b/2.md"⟩] ∧
      [Path.mk "./a/1.md", ⟨"./a.b/2.md"⟩].Pairwise (fun p q => p.lt q = true) := by
  have hwell : (FileTree.directory mixedEntries).WellFormed := by
    simp only [mixedEntries, FileTree.WellFormed, FileTree.WellFormedEntries, Entries.Sorted]
    decide
  have hget : mixed.get ⟨"."⟩ = .ok (.directory mixedEntries) := rfl
  have hpaths : mixed.discover ⟨"."⟩ = .ok [⟨"./a/1.md"⟩, ⟨"./a.b/2.md"⟩] := rfl
  obtain ⟨places, -, h⟩ := discover_exact hwell
  obtain ⟨paths, hdiscover, -, -, -, hordered, -⟩ := h mixed ⟨"."⟩ hget
  obtain rfl := Except.ok.inj (hpaths.symm.trans hdiscover)
  exact ⟨hwell, hget, hpaths, rfl, hordered⟩

end Disk
end WorkItems
