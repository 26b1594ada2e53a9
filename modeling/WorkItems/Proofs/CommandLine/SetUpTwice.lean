import WorkItems.Proofs.CommandLine.Roots
import WorkItems.Proofs.CommandLine.SetUp
import WorkItems.Proofs.Config.RoundTrip
/-!
# Setting up a project twice

A project that has been set up well has its directory, a configuration that can be loaded, and every
folder that the configuration names (`IsSetUp`). Setting up leaves a project so, because it only
adds: what one step has made or found stays through the steps behind it, whatever these make. Where
there was no configuration, the one that is written is read back as the one whose folders are made.
And in a project that is set up nothing is left to make, so a second time changes nothing and tells
that everything is there.

What a second command line works on is another question. Where no root is given, the root is the
nearest directory around the current one that has a directory `.docket`. If the configuration has a
folder of that name between the two, the first time makes it, and the second time finds another
project there.
-/

namespace WorkItems

/-! ## Configurations that can be loaded -/

namespace Config

variable {root : Path}

theorem load_eq_ok {d : Disk} {c : Config} :
    load d root = .ok c ↔
    ∃ text, d.readText (root.join filePath) = .ok text ∧ ofText text = .ok c := by
  rw [load]
  cases hread : d.readText (root.join filePath) with
  | error e =>
      dsimp only
      split <;> simp
  | ok text =>
      dsimp only
      rw [Disk.leadsSomewhere_of_readText hread, Bool.not_true, if_neg Bool.false_ne_true]
      cases hc : ofText text with
      | error e => simp [hc, Except.mapError]
      | ok c => simp [hc, Except.mapError]

theorem exists_of_save {d e : Disk} {c : Config}
    (hdir : d.isDirectory (root.join Project.directoryName) = true)
    (h : c.save d root = (.ok (), e)) :
    ∃ place, d.locate (root.join Project.directoryName) = .ok place ∧
      d.writeText (place ++ [fileName]) c.render = .ok e := by
  rw [save, Disk.makeDirectories_of_isDirectory hdir] at h
  dsimp only at h
  split at h
  · cases h
  · rename_i written hwritten
    cases h
    cases hplace : d.locate (root.join Project.directoryName) with
    | error e =>
        rw [hplace] at hwritten
        cases hwritten
    | ok place =>
        rw [hplace] at hwritten
        exact ⟨place, rfl, hwritten⟩

/-- A configuration that can be loaded stays so when something is added. -/
theorem load_of_adds {P : Location → Prop} {d e : Disk} {c : Config} (h : Disk.Adds P d e)
    (hload : load d root = .ok c) : load e root = .ok c := by
  obtain ⟨text, hread, hc⟩ := load_eq_ok.1 hload
  exact load_eq_ok.2 ⟨text, h.readText hread, hc⟩

end Config

namespace CommandLine

/-! ## What setting up leaves behind -/

namespace Interaction

variable {α β : Type} {s t : Session}

/-- Two interactions in a row end well if the first one does, and the second one from there. -/
theorem run_bind_eq_ok {m : Interaction α} {f : α → Interaction β} {b : β}
    (h : (m >>= f).run.run s = (.ok b, t)) :
    ∃ a u, m.run.run s = (.ok a, u) ∧ (f a).run.run u = (.ok b, t) := by
  rw [run_bind] at h
  split at h
  · rename_i a u hm
    exact ⟨a, u, hm, h⟩
  · cases h

theorem run_bind_of_ok {m : Interaction α} {f : α → Interaction β} {a : α}
    (h : m.run.run s = (.ok a, t)) : (m >>= f).run.run s = (f a).run.run t := by
  rw [run_bind, h]

theorem printLine_run (line : String) (s : Session) :
    (printLine line).run.run s = (.ok (), { s with output := s.output ++ (line ++ "\n") }) := rfl

theorem Adds.of_run {P : Location → Prop} {m : Interaction α} {a : α}
    (hm : Adds s.disk.here P m) (h : m.run.run s = (.ok a, t)) : Disk.Adds P s.disk t.disk := by
  have hadds := hm s rfl
  rwa [h] at hadds

end Interaction

open Interaction

/-- A project with its directory, its configuration and the folders of its statuses. -/
structure IsSetUp (d : Disk) (root : Path) (c : Config) : Prop where
  directory : d.isDirectory (root.join Project.directoryName) = true
  config : Config.load d root = .ok c
  folders : ∀ folder ∈ c.statusFolders.values, d.isDirectory (root.join folder) = true

variable {root : Path} {s t : Session}

/-- Below a root that is not empty no path is empty. -/
theorem join_ne_empty (hroot : root.text ≠ "") (child : String) :
    (root.join child).text.isEmpty = false := by
  have hne : root.text.toList ≠ [] := fun h => hroot (String.toList_eq_nil_iff.1 h)
  rw [Bool.eq_false_iff]
  intro hempty
  exact Path.join_ne_nil hne child (String.toList_eq_nil_iff.2 (String.isEmpty_iff.1 hempty))

theorem isDirectory_of_provide {path : Path} (hpath : path.text.isEmpty = false)
    (h : (provide path).run.run s = (.ok (), t)) : t.disk.isDirectory path = true := by
  rw [provide, change_run] at h
  cases hmade : s.disk.makeDirectories path with
  | mk result made =>
      rw [hmade] at h
      cases result with
      | error e => cases h
      | ok u =>
          cases h
          exact Disk.isDirectory_of_makeDirectories hmade hpath

theorem isDirectory_of_provideFolder (hroot : root.text ≠ "") {folder : String}
    (h : (provideFolder root folder).run.run s = (.ok (), t)) :
    t.disk.isDirectory (root.join folder) = true := by
  obtain ⟨_, u, hlook, h⟩ := run_bind_eq_ok h
  cases hlook
  split at h
  · rename_i hdir
    cases h
    exact hdir
  · obtain ⟨_, u, hmade, h⟩ := run_bind_eq_ok h
    have hdir := isDirectory_of_provide (join_ne_empty hroot folder) hmade
    cases h
    exact hdir

/--
Folders that are provided one after the other are all there in the end: none takes away another one.
-/
theorem isDirectory_of_provideFolders (hroot : root.text ≠ "") {folders : List String}
    (h : (folders.forM (provideFolder root)).run.run s = (.ok (), t)) :
    ∀ folder ∈ folders, t.disk.isDirectory (root.join folder) = true := by
  induction folders generalizing s with
  | nil => exact List.forall_mem_nil _
  | cons folder folders ih =>
      obtain ⟨_, u, hfirst, hrest⟩ := run_bind_eq_ok h
      refine List.forall_mem_cons.2 ⟨?_, ih hrest⟩
      have hadds : Disk.Adds (fun _ => True) u.disk t.disk := by
        refine Adds.of_run (adds_forM fun f _ => ?_) hrest
        exact (adds_provideFolder f).mono fun _ _ => trivial
      exact hadds.isDirectory (isDirectory_of_provideFolder hroot hfirst)

/--
A configuration that was not there is written as a text that is read as the same configuration.
-/
theorem load_of_save {d e : Disk} {name : String}
    (hdir : d.isDirectory (root.join Project.directoryName) = true)
    (hnone : d.leadsSomewhere (root.join Config.filePath) = false)
    (h : (Config.starter name).save d root = (.ok (), e)) :
    Config.load e root = .ok (Config.starter name) := by
  obtain ⟨place, hplace, hwritten⟩ := Config.exists_of_save hdir h
  have hname : IsFileName Config.fileName := by decide
  have hadds := Disk.adds_writeText hwritten (find?_of_leadsSomewhere hdir hplace hnone)
  have hfound := Disk.find?_writeText hwritten
  have hlocate : e.locate (root.join Config.filePath) = .ok (place ++ [Config.fileName]) := by
    have hinside : d.tree.hasDirectory place = true := by
      rwa [Disk.isDirectory, hplace] at hdir
    rw [join_filePath, Disk.locate_join (join_directory_ne_nil root) hname, hadds.locate hplace]
    show e.step place Config.fileName.toList = _
    rw [Disk.step_of_isFileName hname, if_pos (hadds.hasDirectory hinside), hfound]
    rfl
  exact Config.load_eq_ok.2
    ⟨_, Disk.readText_eq_ok.2 ⟨_, hlocate, hfound⟩, Config.ofText_render_starter name⟩

/-- The configuration that is provided is the one that is loaded afterwards. -/
theorem load_of_provideConfig {name : String} {c : Config}
    (hdir : s.disk.isDirectory (root.join Project.directoryName) = true)
    (h : (provideConfig root name).run.run s = (.ok c, t)) : Config.load t.disk root = .ok c := by
  rw [provideConfig_run] at h
  split at h
  · obtain ⟨_, u, hpresent, h⟩ := run_bind_eq_ok h
    cases hpresent
    rw [look_run] at h
    obtain ⟨hload, rfl⟩ := Prod.mk.inj h
    show Config.load s.disk root = .ok c
    cases hloaded : Config.load s.disk root with
    | error e =>
        rw [hloaded] at hload
        cases hload
    | ok loaded =>
        rw [hloaded] at hload
        cases hload
        rfl
  · rename_i hnone
    obtain ⟨_, u, hsaved, h⟩ := run_bind_eq_ok h
    cases h
    rw [change_run] at hsaved
    obtain ⟨hresult, rfl⟩ := Prod.mk.inj hsaved
    show Config.load ((Config.starter name).save s.disk root).2 root = _
    have hsave : (Config.starter name).save s.disk root =
        (.ok (), ((Config.starter name).save s.disk root).2) := by
      refine Prod.ext ?_ rfl
      cases hfirst : ((Config.starter name).save s.disk root).1 with
      | error e =>
          rw [hfirst] at hresult
          cases hresult
      | ok u => rfl
    exact load_of_save hdir (by simpa using hnone) hsave

/-- Setting up a project that ends well leaves it set up. -/
theorem isSetUp_of_setUp (hroot : root.text ≠ "") {name : Option String}
    (h : (setUp root name).run.run s = (.ok (), t)) : ∃ c, IsSetUp t.disk root c := by
  obtain ⟨_, u, hprinted, h⟩ := run_bind_eq_ok h
  cases hprinted
  obtain ⟨_, u, hprovided, h⟩ := run_bind_eq_ok h
  obtain ⟨c, v, hconfig, hfolders⟩ := run_bind_eq_ok h
  have hdir := isDirectory_of_provide (join_ne_empty hroot _) hprovided
  have hload := load_of_provideConfig hdir hconfig
  have hadds : Disk.Adds (fun _ => True) v.disk t.disk := by
    refine Adds.of_run (adds_forM fun folder _ => ?_) hfolders
    exact (adds_provideFolder folder).mono fun _ _ => trivial
  have hbefore : Disk.Adds (fun _ => True) u.disk v.disk := by
    have hadded := (provideConfig_spec root ((name.or root.fileName?).getD standardName) hdir).1
    rw [hconfig] at hadded
    exact hadded.mono fun _ _ => trivial
  exact ⟨c, (hbefore.trans hadds).isDirectory hdir, Config.load_of_adds hadds hload,
    isDirectory_of_provideFolders hroot hfolders⟩

/-! ## Setting up what is set up -/

/-- What is told about things that are there. -/
def presence (shown : List String) : String :=
  String.join (shown.map fun s => "  exists:  " ++ s ++ "\n")

theorem presence_cons (shown : String) (rest : List String) :
    presence (shown :: rest) = "  exists:  " ++ shown ++ "\n" ++ presence rest := by
  rw [presence, List.map_cons, String.join_cons, presence]

/-- What is told about a project that is set up. -/
def presenceOf (root : Path) (c : Config) : String :=
  "Initializing docket in: " ++ root.text ++ "\n" ++
    presence (Config.filePath :: c.statusFolders.values.map (· ++ "/"))

section

variable {d : Disk} {output : String}

theorem provide_of_isDirectory {path : Path} (h : d.isDirectory path = true) :
    (provide path).run.run ⟨d, output⟩ = (.ok (), ⟨d, output⟩) := by
  rw [provide, change_run, Disk.makeDirectories_of_isDirectory h]
  rfl

theorem provideFolder_of_isDirectory {folder : String}
    (h : d.isDirectory (root.join folder) = true) :
    (provideFolder root folder).run.run ⟨d, output⟩ =
      (.ok (), ⟨d, output ++ ("  exists:  " ++ (folder ++ "/") ++ "\n")⟩) := by
  rw [provideFolder, run_bind]
  show (if _ then _ else _ : Interaction Unit).run.run ⟨d, output⟩ = _
  rw [if_pos h]
  exact printLine_run _ _

theorem provideFolders_of_isDirectory {folders : List String}
    (h : ∀ folder ∈ folders, d.isDirectory (root.join folder) = true) :
    (folders.forM (provideFolder root)).run.run ⟨d, output⟩ =
      (.ok (), ⟨d, output ++ presence (folders.map (· ++ "/"))⟩) := by
  induction folders generalizing output with
  | nil =>
      rw [presence, List.map_nil, List.map_nil, String.join_nil, String.append_empty]
      rfl
  | cons folder folders ih =>
      obtain ⟨hfirst, hrest⟩ := List.forall_mem_cons.1 h
      show (provideFolder root folder >>= fun _ => folders.forM (provideFolder root)).run.run _ = _
      rw [run_bind_of_ok (provideFolder_of_isDirectory hfirst), ih hrest, List.map_cons,
        presence_cons, String.append_assoc]

/-- A configuration that is there is loaded and not written, whatever the name. -/
theorem provideConfig_of_load {c : Config} (h : Config.load d root = .ok c) (name : String) :
    (provideConfig root name).run.run ⟨d, output⟩ =
      (.ok c, ⟨d, output ++ ("  exists:  " ++ Config.filePath ++ "\n")⟩) := by
  obtain ⟨text, hread, -⟩ := Config.load_eq_ok.1 h
  rw [provideConfig_run, if_pos (Disk.leadsSomewhere_of_readText hread), present,
    run_bind_of_ok (printLine_run _ _), look_run]
  dsimp only
  rw [h]
  rfl

/-- A project that is set up is left as it is, whatever name it is given now. -/
theorem setUp_of_isSetUp {c : Config} (h : IsSetUp d root c) (name : Option String) :
    (setUp root name).run.run ⟨d, output⟩ = (.ok (), ⟨d, output ++ presenceOf root c⟩) := by
  rw [setUp, run_bind_of_ok (printLine_run _ _),
    run_bind_of_ok (provide_of_isDirectory h.directory),
    run_bind_of_ok (provideConfig_of_load h.config _), provideFolders_of_isDirectory h.folders]
  refine congrArg (fun told => (Except.ok (), Session.mk d told)) ?_
  unfold presenceOf
  simp only [presence_cons, String.append_assoc]

end

/-! ## Command lines -/

/--
A command line that sets up the project whose root is given, or the one around the current
directory.
-/
def SetsUp (usualRoot : Option String) (arguments : List String) (given : Option String) : Prop :=
  ∃ name json, Invocation.ofArguments usualRoot arguments = .ok ⟨.setUp name, given, json⟩

namespace SetsUp

variable {usualRoot given : Option String} {arguments : List String}

theorem root_ne_empty (h : SetsUp usualRoot arguments given) (d : Disk) :
    (rootFor given d).text ≠ "" := by
  obtain ⟨name, json, harguments⟩ := h
  exact rootFor_ne_empty (Invocation.root_ne_empty harguments) d

theorem run_eq (h : SetsUp usualRoot arguments given) : ∃ name, ∀ (today : Date) (d : Disk),
    run today usualRoot arguments d =
      .ofSession ((setUp (rootFor given d) name).run.run ⟨d, ""⟩) := by
  obtain ⟨name, json, harguments⟩ := h
  refine ⟨name, fun today d => ?_⟩
  rw [run, harguments]
  rfl

end SetsUp

/-- A command that ends with code 0 has not failed. -/
theorem Outcome.code_ofSession {result : Except Failure Unit × Session}
    (h : (ofSession result).code = 0) :
    ∃ output, result = (.ok (), ⟨(ofSession result).disk, output⟩) := by
  rcases result with ⟨failure | u, s⟩
  · cases h
  · exact ⟨s.output, rfl⟩

/--
Where a project has been set up with code 0, it is set up once more, from the same directory, with
the same root given or none, and with any name. This works on the same root exactly if the root is
given, or no directory `.docket` has come to be between the current directory and the root. Then it
ends with code 0, leaves the disk as it is, and tells of the configuration and of every folder in it
that they exist.
-/
theorem run_setUp_again {usualRoot usualRoot' given : Option String} {first second : List String}
    {today : Date} {d e : Disk} (hfirst : SetsUp usualRoot first given)
    (hsecond : SetsUp usualRoot' second given) (hcode : (run today usualRoot first d).code = 0)
    (hdisk : (run today usualRoot first d).disk = e) (later : Date) :
    (rootFor given e = rootFor given d ↔ (given = none →
        ∀ p ∈ below d (rootFor given d), e.isDirectory (p.join Project.directoryName) = false)) ∧
      (rootFor given e = rootFor given d → ∃ c, Config.load e (rootFor given d) = .ok c ∧
        run later usualRoot' second e = ⟨0, presenceOf (rootFor given d) c, none, e⟩) := by
  obtain ⟨name, hrun⟩ := hfirst.run_eq
  obtain ⟨name', hrun'⟩ := hsecond.run_eq
  rw [hrun today d] at hcode hdisk
  obtain ⟨output, hended⟩ := Outcome.code_ofSession hcode
  rw [hdisk] at hended
  obtain ⟨c, hsetUp⟩ := isSetUp_of_setUp (hfirst.root_ne_empty d) hended
  have hhere : e.here = d.here := by
    have hadds := adds_setUp (rootFor given d) name ⟨d, ""⟩
    rw [hended] at hadds
    exact hadds.here
  refine ⟨rootFor_eq_iff hhere hsetUp.directory, fun hsame => ⟨c, hsetUp.config, ?_⟩⟩
  rw [hrun' later e, hsame, setUp_of_isSetUp hsetUp name']
  show Outcome.mk 0 ("" ++ presenceOf (rootFor given d) c) none e = _
  rw [String.empty_append]

/--
A disk with nothing but a project whose configuration is given, seen from a directory in the
project.
-/
def diskInside (text : String) : Disk where
  tree := .directory [("proj", .directory [
    (Project.directoryName, .directory [(Config.fileName, .file (.text text))]),
    ("sub", .directory [])])]
  here := ["proj", "sub"]

/-- Seen from there, a project with folders in folders, and one whose path turns back. -/
def nestedInside : Disk :=
  diskInside "project: \x7bname: p\x7d\nstatus_folders: \x7ba: work/./a, b: b/../c\x7d\n"

theorem setsUp_named : SetsUp none ["init", "--name", "other"] none :=
  ⟨some "other", false, by decide +kernel⟩

theorem setsUp_bare : SetsUp none ["init"] none := ⟨none, false, by decide +kernel⟩

theorem run_setUp_again_nested :
    (run DateFormat.january none ["init", "--name", "other"] nestedInside).code = 0 ∧
      ∃ c, run DateFormat.january none ["init"]
          (run DateFormat.january none ["init", "--name", "other"] nestedInside).disk =
        ⟨0, presenceOf ⟨"/proj"⟩ c, none,
          (run DateFormat.january none ["init", "--name", "other"] nestedInside).disk⟩ := by
  have hcode : (run DateFormat.january none ["init", "--name", "other"] nestedInside).code = 0 := by
    decide +kernel
  refine ⟨hcode, ?_⟩
  obtain ⟨hsame, hagain⟩ := run_setUp_again setsUp_named setsUp_bare hcode rfl DateFormat.january
  obtain ⟨c, -, hrun⟩ := hagain (hsame.2 fun _ => by decide +kernel)
  have hroot : rootFor none nestedInside = ⟨"/proj"⟩ := congrArg Path.mk (by decide +kernel)
  exact ⟨c, hroot ▸ hrun⟩

/--
The first time makes a folder that the second time takes for the directory of another project.
-/
theorem run_setUp_nearerProject :
    ∃ d, SetsUp none ["init"] none ∧ (run DateFormat.january none ["init"] d).code = 0 ∧
      (run DateFormat.january none ["init"] d).disk.tree.kind?
        ["proj", "sub", ".docket", "config.yaml"] = none ∧
      ((run DateFormat.january none ["init"]
        (run DateFormat.january none ["init"] d).disk).disk.tree.kind?
          ["proj", "sub", ".docket", "config.yaml"]).isSome = true :=
  ⟨diskInside "project: \x7bname: p\x7d\nstatus_folders: \x7ba: sub/.docket\x7d\n", setsUp_bare,
    by decide +kernel, by decide +kernel, by decide +kernel⟩

end CommandLine
end WorkItems
