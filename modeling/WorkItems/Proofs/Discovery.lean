import WorkItems.Proofs.Disk
/-!
# The work items of a project

The path of a work item is the root of the project with the names of the way down to it. A file is a
work item for the names on that way alone, so two disks that have the same file there have the same
work item. Different work items are different files and have different paths, whatever form the root
was given in.
-/

namespace WorkItems

namespace Disk

variable {d d' : Disk} {root : Path} {paths : List Path}

/-- Whether a file at the end of a way down from a root is a work item. -/
def isItemBelow (root : Path) : FileTree → Location → Bool
  | .file _, _ => root.fileName?.any isMarkdownName
  | .directory _, rest => isWorkItemAt rest

theorem mem_itemsBelow {root p : Path} {t : FileTree} (ht : t.WellFormed) :
    p ∈ itemsBelow root t ↔ ∃ rest c, p = rest.foldl Path.join root ∧
      t.find? rest = some (.file c) ∧ isItemBelow root t rest = true := by
  cases t with
  | file c =>
      rw [itemsBelow]
      constructor
      · intro hp
        split at hp
        · rename_i hname
          exact ⟨[], c, List.mem_singleton.1 hp, rfl, hname⟩
        · cases hp
      · rintro ⟨rest, c', rfl, hrest, hname⟩
        cases rest with
        | nil => exact (if_pos hname).symm ▸ List.mem_singleton.2 rfl
        | cons name rest => cases hrest
  | directory es =>
      rw [itemsBelow, List.mem_map]
      constructor
      · rintro ⟨rest, hmem, rfl⟩
        obtain ⟨hfile, hitem⟩ := List.mem_filter.1 hmem
        obtain ⟨c, hc⟩ := (FileTree.mem_files ht).1 hfile
        exact ⟨rest, c, rfl, hc, hitem⟩
      · rintro ⟨rest, c, rfl, hc, hitem⟩
        exact ⟨rest, List.mem_filter.2 ⟨(FileTree.mem_files ht).2 ⟨c, hc⟩, hitem⟩, rfl⟩

/-- Work items differ in whatever tells the ways down to them apart. -/
theorem nodup_map_itemsBelow {α : Type} {root : Path} {t : FileTree} (ht : t.WellFormed)
    {g : Path → α} (hg : ∀ p ∈ t.files, ∀ q ∈ t.files,
      g (p.foldl Path.join root) = g (q.foldl Path.join root) → p = q) :
    ((itemsBelow root t).map g).Nodup := by
  cases t with
  | file c =>
      rw [itemsBelow]
      split
      · exact List.pairwise_singleton ..
      · exact List.Pairwise.nil
  | directory es =>
      rw [itemsBelow, List.map_map, List.Nodup, List.pairwise_map]
      refine ((FileTree.nodup_files ht).sublist List.filter_sublist).imp_of_mem ?_
      intro p q hp hq hne heq
      exact hne (hg p (List.mem_filter.1 hp).1 q (List.mem_filter.1 hq).1 heq)

theorem discover_eq_ok :
    d.discover root = .ok paths ↔
      ∃ top t, d.locate root = .ok top ∧ d.tree.find? top = some t ∧ paths = itemsBelow root t := by
  rw [discover]
  constructor
  · intro h
    cases hget : d.get root with
    | error e =>
        rw [hget] at h
        cases h
    | ok t =>
        rw [hget] at h
        obtain ⟨top, htop, ht⟩ := get_eq_ok.1 hget
        exact ⟨top, t, htop, ht, (Except.ok.inj h).symm⟩
  · rintro ⟨top, t, htop, ht, rfl⟩
    rw [get_eq_ok.2 ⟨top, htop, ht⟩]
    rfl

/-- The way down to a work item leads to it also from the root of the project. -/
theorem locate_item (hd : d.IsSound) {top rest : Location} {t u : FileTree}
    (htop : d.locate root = .ok top) (ht : d.tree.find? top = some t)
    (hrest : t.find? rest = some u) :
    d.locate (rest.foldl Path.join root) = .ok (top ++ rest) :=
  locate_foldl_join htop ht (hd.wellFormed_of_find? ht) hrest

/-- The names of a way down behind a path lead to what lies at its end. -/
theorem get_foldl_join {rest : Location} {t u : FileTree} (hroot : d.get root = .ok t)
    (ht : t.WellFormed) (hrest : t.find? rest = some u) :
    d.get (rest.foldl Path.join root) = .ok u := by
  obtain ⟨top, htop, hfind⟩ := get_eq_ok.1 hroot
  refine get_eq_ok.2 ⟨top ++ rest, locate_foldl_join htop hfind ht hrest, ?_⟩
  rw [FileTree.find?_append, hfind]
  exact hrest

/-- The path of a work item has the components of the root and the names of the way down. -/
theorem components_item {top rest : Location} {t u : FileTree} (htop : d.locate root = .ok top)
    (ht : t.WellFormed) (hrest : t.find? rest = some u) :
    (rest.foldl Path.join root).components = root.components ++ rest.map .name :=
  Path.components_foldl_join (ne_nil_of_locate htop) (FileTree.isFileName_of_find? ht hrest)

/-- The paths of the work items lead to files below the root, no two of them to the same one. -/
theorem discover_spec (hd : d.IsSound) (h : d.discover root = .ok paths) :
    ∃ top, d.locate root = .ok top ∧ (∀ p ∈ paths, ∃ place, d.LeadsToFile top p place) ∧
      (paths.map d.locate).Nodup := by
  obtain ⟨top, t, htop, ht, rfl⟩ := discover_eq_ok.1 h
  have hwell := hd.wellFormed_of_find? ht
  refine ⟨top, htop, fun p hp => ?_, ?_⟩
  · obtain ⟨rest, c, rfl, hc, -⟩ := (mem_itemsBelow hwell).1 hp
    refine ⟨top ++ rest, locate_item hd htop ht hc, List.prefix_append .., c, ?_⟩
    rw [FileTree.find?_append, ht]
    exact hc
  · refine nodup_map_itemsBelow hwell fun p hp q hq heq => ?_
    obtain ⟨_, hp⟩ := (FileTree.mem_files hwell).1 hp
    obtain ⟨_, hq⟩ := (FileTree.mem_files hwell).1 hq
    rw [locate_item hd htop ht hp, locate_item hd htop ht hq] at heq
    exact List.append_cancel_left (Except.ok.inj heq)

/-- A work item below a directory lies where its names say that one can lie. -/
theorem place_of_discover (hd : d.IsSound) (hpaths : d.discover root = .ok paths) {p : Path}
    {top place : Location} (htop : d.locate root = .ok top)
    (hdir : d.tree.hasDirectory top = true) (hp : p ∈ paths) (hplace : d.locate p = .ok place) :
    ∃ rest, place = top ++ rest ∧ isWorkItemAt rest = true := by
  obtain ⟨_, t, htop', ht, rfl⟩ := discover_eq_ok.1 hpaths
  obtain rfl := Except.ok.inj (htop.symm.trans htop')
  obtain ⟨rest, c, rfl, hrest, hitem⟩ := (mem_itemsBelow (hd.wellFormed_of_find? ht)).1 hp
  rw [locate_item hd htop ht hrest] at hplace
  rw [FileTree.hasDirectory, ht] at hdir
  cases t with
  | file _ => cases hdir
  | directory _ => exact ⟨rest, (Except.ok.inj hplace).symm, hitem⟩

/-- No two work items have the same path, whatever way paths are spelled. -/
theorem nodup_components (hd : d.IsSound) (h : d.discover root = .ok paths) :
    (paths.map Path.components).Nodup := by
  obtain ⟨top, t, htop, ht, rfl⟩ := discover_eq_ok.1 h
  have hwell := hd.wellFormed_of_find? ht
  have hcomponents : ∀ rest ∈ t.files,
      (rest.foldl Path.join root).components = root.components ++ rest.map .name := by
    intro rest hrest
    obtain ⟨c, hc⟩ := (FileTree.mem_files hwell).1 hrest
    exact components_item htop hwell hc
  refine nodup_map_itemsBelow hwell fun p hp q hq heq => ?_
  rw [hcomponents p hp, hcomponents q hq] at heq
  refine (List.map_inj_right ?_).1 (List.append_cancel_left heq)
  intro a b hab
  exact Component.name.inj hab

/-- A work item of one disk is one of another disk that has the same file there. -/
theorem mem_discover_of_get_eq (hd : d.IsSound) (hd' : d'.IsSound) (h : d.discover root = .ok paths)
    {paths' : List Path} (h' : d'.discover root = .ok paths') {p : Path} (hp : p ∈ paths)
    (hget : d'.get p = d.get p) : p ∈ paths' := by
  obtain ⟨top, t, htop, ht, rfl⟩ := discover_eq_ok.1 h
  obtain ⟨top', t', htop', ht', rfl⟩ := discover_eq_ok.1 h'
  have hwell := hd.wellFormed_of_find? ht
  obtain ⟨rest, c, rfl, hc, hitem⟩ := (mem_itemsBelow hwell).1 hp
  have hfile : d.get (rest.foldl Path.join root) = .ok (.file c) :=
    get_foldl_join (get_eq_ok.2 ⟨top, htop, ht⟩) hwell hc
  obtain ⟨place, hplace, hfind⟩ := get_eq_ok.1 (hget.trans hfile)
  have hnames := FileTree.isFileName_of_find? hwell hc
  -- The names lead down from the root in the other disk too, to the same file.
  rw [locate_foldl_join_eq (ne_nil_of_locate htop) hnames, htop'] at hplace
  obtain rfl := walk_names_eq_ok hnames hplace
  rw [FileTree.find?_append, ht', Option.bind_some] at hfind
  refine (mem_itemsBelow (hd'.wellFormed_of_find? ht')).2 ⟨rest, c, rfl, hfind, ?_⟩
  cases rest with
  | nil =>
      cases hc
      cases hfind
      exact hitem
  | cons name rest =>
      cases t with
      | file _ => cases hc
      | directory _ =>
          cases t' with
          | file _ => cases hfind
          | directory _ => exact hitem

theorem items_eq_ok {files : List ItemFile} (h : d.items root = .ok files) :
    ∃ paths, d.discover root = .ok paths ∧ files = paths.map (ItemFile.read d) := by
  rw [Disk.items] at h
  split at h
  · cases h
  · rename_i paths hpaths
    exact ⟨paths, hpaths, (Except.ok.inj h).symm⟩

end Disk
end WorkItems
