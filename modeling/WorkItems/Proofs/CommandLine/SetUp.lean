import WorkItems.CommandLine
import WorkItems.Proofs.Disk.Making
/-!
# Where setting up a project writes

Setting up a project makes its configuration, the folders of its statuses, and the directories that
have to be made for these. It changes nothing that is there. The folders are whatever the
configuration says: as long as each of them leads nowhere above the root, what is made lies below
the root or holds it. A folder that leads out of the root is made where it leads to.
-/

namespace WorkItems

namespace CommandLine

/-! ## Interactions that only add -/

namespace Interaction

variable {α β : Type} {here : Location} {P Q : Location → Prop}

/--
However it ends, an interaction that starts in a directory only adds something at some places.
-/
def Adds (here : Location) (P : Location → Prop) (m : Interaction α) : Prop :=
  ∀ s : Session, s.disk.here = here → Disk.Adds P s.disk (m.run.run s).2.disk

/-- What comes behind an interaction runs only if that ends well, and where it ends. -/
theorem run_bind (m : Interaction α) (f : α → Interaction β) (s : Session) :
    (m >>= f).run.run s = match m.run.run s with
      | (.ok a, t) => (f a).run.run t
      | (.error e, t) => (.error e, t) := by
  have hrun : (m >>= f).run.run s = (ExceptT.bindCont f (m.run.run s).1).run (m.run.run s).2 := rfl
  rw [hrun]
  cases m.run.run s with
  | mk result t => cases result <;> rfl

/-- A change stays also if the task fails. -/
theorem change_run (task : Task) (f : Disk → Except RunError α × Disk) (s : Session) :
    (change task f).run.run s =
      ((f s.disk).1.mapError (Failure.during task), { s with disk := (f s.disk).2 }) := by
  show (attempt task (f s.disk).1).run.run { s with disk := (f s.disk).2 } = _
  cases (f s.disk).1 <;> rfl

theorem look_run (task : Task) (f : Disk → Except RunError α) (s : Session) :
    (look task f).run.run s = ((f s.disk).mapError (Failure.during task), s) := by
  show (attempt task (f s.disk)).run.run s = _
  cases f s.disk <;> rfl

theorem adds_pure (a : α) : Adds here P (pure a : Interaction α) := fun s _ => .refl P s.disk

theorem adds_print (text : String) : Adds here P (print text) := fun s _ => .refl P s.disk

theorem Adds.bind {m : Interaction α} {f : α → Interaction β} (hm : Adds here P m)
    (hf : ∀ a, Adds here P (f a)) : Adds here P (m >>= f) := by
  intro s hs
  have hfirst := hm s hs
  rw [run_bind]
  split
  · rename_i a t heq
    rw [heq] at hfirst
    exact hfirst.trans (hf a t (hfirst.here.trans hs))
  · rename_i e t heq
    rw [heq] at hfirst
    exact hfirst

theorem Adds.mono {m : Interaction α} (hm : Adds here P m) (hPQ : ∀ place, P place → Q place) :
    Adds here Q m := fun s hs => (hm s hs).mono hPQ

theorem adds_forM {f : α → Interaction Unit} {as : List α} (h : ∀ a ∈ as, Adds here P (f a)) :
    Adds here P (as.forM f) := by
  induction as with
  | nil => exact adds_pure ()
  | cons a as ih =>
      obtain ⟨ha, has⟩ := List.forall_mem_cons.1 h
      exact ha.bind fun _ => ih has

end Interaction

open Interaction

/-! ## What is provided -/

variable {here : Location} {root : Path}

/-- A directory is made at the places that its path names. -/
theorem adds_provide (path : Path) :
    Interaction.Adds here (Disk.Names here path) (provide path) := by
  rintro s rfl
  rw [provide, change_run]
  exact Disk.adds_makeDirectories s.disk path

theorem adds_provideFolder (folder : String) :
    Interaction.Adds here (Disk.Names here (root.join folder)) (provideFolder root folder) := by
  rintro s hs
  rw [provideFolder, run_bind]
  show Disk.Adds _ _ ((if _ then _ else _ : Interaction Unit).run.run s).2.disk
  split
  · exact adds_print _ s hs
  · exact (adds_provide (root.join folder)).bind (fun _ => adds_print _) s hs

/-- What lies in the directory of the project has a path that ends in its names. -/
theorem exists_join_directory (root : Path) :
    ∃ front, ∀ rest, root.join (Project.directoryName ++ rest) =
      ⟨front ++ (Project.directoryName ++ rest)⟩ := by
  have hhead : ∀ rest : String,
      ((Project.directoryName ++ rest).toList.head? == some '/') = false := by
    intro rest
    rw [String.toList_append]
    rfl
  by_cases hslash : (root.text.isEmpty || root.text.toList.getLast? == some '/') = true
  · refine ⟨root.text, fun rest => ?_⟩
    rw [Path.join, hhead, if_neg Bool.false_ne_true, if_pos hslash]
  · refine ⟨root.text ++ "/", fun rest => ?_⟩
    rw [Path.join, hhead, if_neg Bool.false_ne_true, if_neg hslash]

theorem toList_join_directory (root : Path) :
    ∃ front, (root.join Project.directoryName).text.toList =
      front ++ Project.directoryName.toList := by
  obtain ⟨front, hjoin⟩ := exists_join_directory root
  have hdirectory := hjoin ""
  rw [String.append_empty] at hdirectory
  exact ⟨front.toList, by rw [hdirectory, String.toList_append]⟩

theorem join_directory_ne_nil (root : Path) :
    (root.join Project.directoryName).text.toList ≠ [] := by
  obtain ⟨front, hfront⟩ := toList_join_directory root
  rw [hfront]
  exact List.append_ne_nil_of_right_ne_nil _ (by decide)

/-- The configuration lies in the directory of the project. -/
theorem join_filePath (root : Path) :
    root.join Config.filePath = (root.join Project.directoryName).join Config.fileName := by
  obtain ⟨front, hjoin⟩ := exists_join_directory root
  have hdirectory := hjoin ""
  have hfile := hjoin ("/" ++ Config.fileName)
  rw [String.append_empty] at hdirectory
  have hslash : ((front ++ Project.directoryName).isEmpty ||
      (front ++ Project.directoryName).toList.getLast? == some '/') = false := by
    have hlast : (front ++ Project.directoryName).toList.getLast? = some 't' := by
      rw [String.toList_append, List.getLast?_append]
      rfl
    rw [Bool.or_eq_false_iff, hlast]
    refine ⟨Bool.eq_false_iff.2 fun hempty => ?_, rfl⟩
    rw [String.isEmpty_iff.1 hempty] at hlast
    cases hlast
  rw [Config.filePath, String.append_assoc, hfile, hdirectory, Path.join,
    if_neg (by decide), hslash, if_neg Bool.false_ne_true]
  simp only [String.append_assoc]

/-- Of the directory and the file of the configuration, the file's path names the more. -/
theorem names_configDirectory {place : Location}
    (h : Disk.Names here (root.join Project.directoryName) place) :
    Disk.Names here (root.join Config.filePath) place := by
  obtain ⟨cs, name, hfront, rfl⟩ := h
  refine ⟨cs, name, ?_, rfl⟩
  rw [join_filePath, Path.components_join (join_directory_ne_nil root) (by decide)]
  exact hfront.trans (List.prefix_append _ _)

/-- Where the path of the configuration leads nowhere, its directory has no entry for it. -/
theorem find?_of_leadsSomewhere {d : Disk} {place : Location}
    (hdir : d.isDirectory (root.join Project.directoryName) = true)
    (hplace : d.locate (root.join Project.directoryName) = .ok place)
    (hnone : d.leadsSomewhere (root.join Config.filePath) = false) :
    d.tree.find? (place ++ [Config.fileName]) = none := by
  have hname : IsFileName Config.fileName := by decide
  rw [Disk.isDirectory, hplace] at hdir
  rw [Disk.leadsSomewhere, join_filePath, Disk.locate_join (join_directory_ne_nil root) hname,
    hplace] at hnone
  have hstep : (d.step place Config.fileName.toList).isOk = false := hnone
  rw [Disk.step_of_isFileName hname, if_pos hdir] at hstep
  split at hstep
  · cases hstep
  · rename_i hmissing
    exact Option.not_isSome_iff_eq_none.1 hmissing

/-- Where no configuration is, writing one adds its file alone to its directory. -/
theorem adds_save {d : Disk} (hdir : d.isDirectory (root.join Project.directoryName) = true)
    (hnone : d.leadsSomewhere (root.join Config.filePath) = false) (c : Config) :
    Disk.Adds (Disk.Names d.here (root.join Config.filePath)) d (c.save d root).2 := by
  rw [Config.save, Disk.makeDirectories_of_isDirectory hdir]
  dsimp only
  split
  · exact .refl _ _
  · rename_i written hwritten
    cases hplace : d.locate (root.join Project.directoryName) with
    | error e =>
        rw [hplace] at hwritten
        cases hwritten
    | ok place =>
        rw [hplace] at hwritten
        have hname : IsFileName Config.fileName := by decide
        have hmissing := find?_of_leadsSomewhere hdir hplace hnone
        refine (Disk.adds_writeText hwritten hmissing).mono ?_
        rintro _ rfl
        refine ⟨(root.join Project.directoryName).components, Config.fileName, ?_, ?_⟩
        · simp only [join_filePath, Path.components_join (join_directory_ne_nil root) hname,
            List.prefix_rfl]
        · rw [Disk.locate_eq_ok_placeOf hplace]

/--
The folders that a project gets: those of its configuration, or the usual ones if it has none.
-/
def foldersFor (d : Disk) (root : Path) : List String :=
  match Config.load d root with
  | .ok c => c.statusFolders.values
  | .error _ => standardFolders.values

/-- A configuration that is there is loaded, and otherwise the usual one is written. -/
theorem provideConfig_run (name : String) (s : Session) :
    (provideConfig root name).run.run s =
      if s.disk.leadsSomewhere (root.join Config.filePath) then
        (present Config.filePath >>= fun _ =>
          look .loadPresentConfig fun d => Config.load d root).run.run s
      else
        (change .writeConfig (fun d => (Config.starter name).save d root) >>= fun _ =>
          created Config.filePath >>= fun _ => pure (Config.starter name)).run.run s := by
  rw [provideConfig, run_bind]
  show (if _ then _ else _ : Interaction Config).run.run s = _
  split <;> rfl

/--
Providing the configuration adds only its file, and gives the configuration that says the folders.
-/
theorem provideConfig_spec (root : Path) (name : String) {s : Session}
    (hdir : s.disk.isDirectory (root.join Project.directoryName) = true) :
    Disk.Adds (Disk.Names s.disk.here (root.join Config.filePath)) s.disk
        ((provideConfig root name).run.run s).2.disk ∧
      ∀ c t, (provideConfig root name).run.run s = (.ok c, t) →
        c.statusFolders.values = foldersFor s.disk root := by
  rw [provideConfig_run]
  split
  · rw [run_bind]
    show Disk.Adds _ _ ((look _ _).run.run _).2.disk ∧ ∀ c t, (look _ _).run.run _ = _ → _
    rw [look_run]
    refine ⟨.refl _ _, fun c t h => ?_⟩
    show _ = match Config.load s.disk root with | .ok c => c.statusFolders.values | .error _ => _
    cases hload : Config.load s.disk root with
    | error e =>
        rw [hload] at h
        cases h
    | ok loaded =>
        rw [hload] at h
        cases h
        rfl
  · rename_i hnone
    rw [Bool.not_eq_true] at hnone
    have hsave := adds_save hdir hnone (Config.starter name)
    have hload : Config.load s.disk root = .error .notInitialized := by
      rw [Config.load, hnone]
      rfl
    have hfolders : foldersFor s.disk root = standardFolders.values := by
      show (match Config.load s.disk root with | .ok c => c.statusFolders.values | .error _ => _) =
        _
      rw [hload]
    rw [hfolders, run_bind, change_run]
    cases hsaved : (Config.starter name).save s.disk root with
    | mk result made =>
        rw [hsaved] at hsave
        cases result with
        | error e => exact ⟨hsave, fun c t h => nomatch h⟩
        | ok u =>
            refine ⟨hsave, fun c t h => ?_⟩
            cases h
            rfl

/--
Setting up a project adds something only at the places that the path of its configuration and the
paths of its folders name.
-/
theorem adds_setUp (root : Path) (name : Option String) (s : Session) :
    Disk.Adds (fun place => ∃ child ∈ Config.filePath ::
        foldersFor (s.disk.makeDirectories (root.join Project.directoryName)).2 root,
        Disk.Names s.disk.here (root.join child) place)
      s.disk ((setUp root name).run.run s).2.disk := by
  have hmade := (Disk.adds_makeDirectories s.disk (root.join Project.directoryName))
  rw [setUp, run_bind]
  show Disk.Adds _ _ ((provide _ >>= _).run.run { s with output := _ }).2.disk
  rw [run_bind, provide, change_run]
  cases hfirst : s.disk.makeDirectories (root.join Project.directoryName) with
  | mk result made =>
      rw [hfirst] at hmade
      have hadded : Disk.Adds (fun place => ∃ child ∈ Config.filePath :: foldersFor made root,
          Disk.Names s.disk.here (root.join child) place) s.disk made :=
        hmade.mono fun place h => ⟨_, List.mem_cons_self, names_configDirectory h⟩
      cases result with
      | error e => exact hadded
      | ok u =>
          refine hadded.trans ?_
          have hdir := Disk.isDirectory_of_makeDirectories hfirst (by
            rw [Bool.eq_false_iff]
            exact fun h => join_directory_ne_nil root (by rw [String.isEmpty_iff.1 h]; rfl))
          show Disk.Adds _ made ((provideConfig root _ >>= _).run.run ⟨made, _⟩).2.disk
          obtain ⟨hadds, hfolders⟩ :=
            provideConfig_spec root ((name.or root.fileName?).getD standardName)
              (s := ⟨made, s.output ++ ("Initializing docket in: " ++ root.text ++ "\n")⟩) hdir
          have hconfig :=
            hadds.mono (Q := fun place => ∃ child ∈ Config.filePath :: foldersFor made root,
              Disk.Names s.disk.here (root.join child) place) fun place h =>
              ⟨_, List.mem_cons_self, hmade.here ▸ h⟩
          rw [run_bind]
          split
          · rename_i c t heq
            rw [heq] at hconfig
            refine hconfig.trans (adds_forM (fun folder hfolder => ?_) t
              (hconfig.here.trans hmade.here))
            rw [hfolders c t heq] at hfolder
            exact (adds_provideFolder folder).mono fun place h =>
              ⟨folder, List.mem_cons_of_mem _ hfolder, h⟩
          · rename_i e t heq
            rw [heq] at hconfig
            exact hconfig

/-! ## Staying along the root -/

/-- A path that leads nowhere above where it starts is a relative one. -/
theorem isRelative_of_staysBelow {child : String}
    (h : Disk.staysBelow 0 (Path.components ⟨child⟩) = true) : child.toList.head? ≠ some '/' := by
  intro hslash
  rw [Path.components_eq, Path.lead, if_pos hslash] at h
  cases h

/--
What is missing and named by a path that leads nowhere above the root holds the root or lies below
it. The path of the root itself has to be straight, or to be there.
-/
theorem along_of_names {d : Disk} {child : String} {place : Location}
    (hroot : Disk.isStraight root.components = true ∨ d.leadsSomewhere root = true)
    (hchild : Disk.staysBelow 0 (Path.components ⟨child⟩) = true)
    (hnames : Disk.Names d.here (root.join child) place) (hmissing : d.tree.kind? place = none) :
    Disk.placeOf d.here root.components <+: place ∨
    place <+: Disk.placeOf d.here root.components := by
  rcases Disk.names_join (isRelative_of_staysBelow hchild)
    hnames with habove | ⟨cs, name, hfront, rfl⟩
  · rcases hroot with hstraight | hthere
    · obtain ⟨cs, name, hfront, rfl⟩ := habove
      exact .inr (Disk.prefix_placeOf_of_isStraight hstraight hfront)
    · rw [Disk.leadsSomewhere] at hthere
      cases hlocate : d.locate root with
      | error e =>
          rw [hlocate] at hthere
          cases hthere
      | ok top =>
          have hfound := Disk.isSome_find?_of_names hlocate habove
          rw [FileTree.kind?_eq_none.1 hmissing] at hfound
          cases hfound
  · have hbelow := Disk.prefix_placeOf_of_staysBelow (Disk.placeOf d.here root.components) [] hchild
      ((List.prefix_append cs [.name name]).trans hfront)
    rw [List.append_nil] at hbelow
    exact .inl (hbelow.trans (List.prefix_append _ _))

/--
Setting up a project in which no folder leads above the root changes nothing that is there, and what
it adds holds the root or lies below it.
-/
theorem run_setUp_stays {i : Invocation} {name : Option String} (hcommand : i.command = .setUp name)
    {d : Disk} {root : Path} (hgiven : (i.root.map Path.mk).getD (rootAround d) = root)
    (hroot : Disk.isStraight root.components = true ∨ d.leadsSomewhere root = true)
    (hfolders : ∀ folder ∈ foldersFor (d.makeDirectories (root.join Project.directoryName)).2 root,
      Disk.staysBelow 0 (Path.components ⟨folder⟩) = true) (today : Date) (place : Location) :
    (i.run today d).disk.tree.kind? place = d.tree.kind? place ∨
      d.tree.kind? place = none ∧ (Disk.placeOf d.here root.components <+: place ∨
        place <+: Disk.placeOf d.here root.components) := by
  have hdisk : (i.run today d).disk = ((setUp root name).run.run ⟨d, ""⟩).2.disk := by
    rw [Invocation.run, hgiven, hcommand]
    show (Outcome.ofSession ((setUp root name).run.run ⟨d, ""⟩)).disk = _
    cases (setUp root name).run.run ⟨d, ""⟩ with
    | mk result t => cases result <;> rfl
  rw [hdisk]
  refine ((adds_setUp root name ⟨d, ""⟩).kind? place).imp_right ?_
  rintro ⟨hmissing, child, hchild, hnames⟩
  refine ⟨hmissing, along_of_names hroot ?_ hnames hmissing⟩
  rcases List.mem_cons.1 hchild with rfl | hchild
  · decide +kernel
  · exact hfolders child hchild

/-- A disk with nothing but a project whose configuration is given. -/
def diskWithConfig (text : String) : Disk where
  tree := .directory [("proj", .directory [
    (Project.directoryName, .directory [(Config.fileName, .file (.text text))])])]
  here := []

/-- Setting up that project. -/
def setUpProject : Invocation := ⟨.setUp none, some "/proj", false⟩

/-- A project with folders in folders, and one whose path turns back below the root. -/
def diskWithNested : Disk :=
  diskWithConfig "project: \x7bname: p\x7d\nstatus_folders: \x7ba: work/./a, b: b/../c\x7d\n"

theorem run_setUp_stays_nested :
    (setUpProject.run DateFormat.january diskWithNested).disk.tree.kind? ["proj", "work", "a"] =
        some none ∧
      (setUpProject.run DateFormat.january diskWithNested).disk.tree.kind? ["proj", "c"] =
          some none ∧
      (["proj"] <+: ["proj", "c"] ∨ ["proj", "c"] <+: ["proj"]) := by
  refine ⟨by decide +kernel, by decide +kernel, ?_⟩
  rcases run_setUp_stays (d := diskWithNested) (i := setUpProject) rfl rfl
    (.inl (by decide +kernel))
    (by decide +kernel) DateFormat.january ["proj", "c"] with hsame | ⟨-, halong⟩
  · exact absurd hsame (by decide +kernel)
  · exact halong

/-- A folder that leads up out of the root is made outside of it. -/
theorem run_setUp_leadsOut :
    ∃ d, d.tree.kind? ["outside"] = none ∧
      (setUpProject.run DateFormat.january d).disk.tree.kind? ["outside"] = some none ∧
      ¬(["proj"] <+: ["outside"] ∨ ["outside"] <+: ["proj"]) :=
  ⟨diskWithConfig "project: \x7bname: p\x7d\nstatus_folders: \x7ba: ../outside\x7d\n",
    by decide +kernel, by decide +kernel, by decide⟩

end CommandLine
end WorkItems
