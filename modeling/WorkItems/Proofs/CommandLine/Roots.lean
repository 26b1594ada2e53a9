import WorkItems.CommandLine
import WorkItems.Proofs.Disk.Making
import WorkItems.Proofs.Except
/-!
# The root that a command works on

A root that is given is never empty: every option that a command line gives is checked when it is
read, and the usual root is checked if some step could have to fall back on it. Where no root is
given, it is looked up. Then it is the current directory or one around that, so it is not empty
either, and whether it is the same on another disk is only about the directories that are nearer
than it.
-/

namespace WorkItems

namespace Path

/-- A text up to one of the steps behind its first slash has that slash. -/
theorem text_ne_of_mem_holders {whole : List Char} {cs : List (Component × List Char)} {p : Path}
    (hcs : ∀ c ∈ cs, c.2.length < whole.length) (hlast : ∃ after, cs.getLast? = some (.root, after))
    (h : p ∈ holders whole cs) : p.text ≠ "" := by
  induction cs using holders.induct with
  | case1 => cases h
  | case2 after => cases h
  | case3 c hroot =>
      obtain ⟨after, hc⟩ := hlast
      exact absurd (Option.some.inj hc) (hroot after)
  | case4 first c after rest ih =>
      rw [holders] at h
      rcases List.mem_cons.1 h with rfl | h
      · have hshort : after.length < whole.length :=
          hcs _ (List.mem_cons_of_mem _ List.mem_cons_self)
        intro hempty
        have hnil := congrArg List.length (String.toList_eq_nil_iff.2 hempty)
        rw [String.toList_ofList, List.length_take, List.length_nil] at hnil
        omega
      · obtain ⟨top, htop⟩ := hlast
        rw [List.getLast?_cons_cons] at htop
        exact ih (fun c hc => hcs c (List.mem_cons_of_mem _ hc)) ⟨top, htop⟩ h

/-- No directory around an absolute path is the empty path. -/
theorem text_ne_of_mem_ancestors {p q : Path} (hp : p.isAbsolute = true) (h : q ∈ p.ancestors) :
    q.text ≠ "" := by
  obtain ⟨rest, hrest⟩ : ∃ rest, p.text.toList = '/' :: rest :=
    List.head?_eq_some_iff.1 (beq_iff_eq.1 hp)
  rcases List.mem_cons.1 h with rfl | h
  · intro hempty
    rw [hempty] at hrest
    cases hrest
  · have hsteps : steps p.text.toList = (.root, rest) :: innerSteps [] rest := by
      rw [hrest, steps]
    refine text_ne_of_mem_holders (fun c hc => ?_) ⟨rest, ?_⟩ h
    · rw [hsteps, List.mem_reverse] at hc
      rw [hrest, List.length_cons, Nat.lt_succ_iff]
      rcases List.mem_cons.1 hc with rfl | hc
      · exact Nat.le_refl _
      · obtain ⟨front, hfront, -⟩ := exists_front_of_mem_innerSteps [] hc
        rw [hfront, List.length_append]
        exact Nat.le_add_left _ _
    · rw [hsteps, List.reverse_cons, List.getLast?_concat]

end Path

namespace CommandLine

/-! ## Roots that are given -/

/-- No option of a step gives an empty root. -/
def Given.NoEmptyRoot (g : Given) : Prop := (Setting.root, "") ∉ g.settings

/-- No option of any step gives an empty root. -/
def Reading.NoEmptyRoot (r : Reading) : Prop := ∀ g ∈ r.allGiven, g.NoEmptyRoot

namespace Given

variable {g g' : Given} {step : Step}

theorem NoEmptyRoot.value?_ne (h : g.NoEmptyRoot) : g.value? .root ≠ some "" := by
  intro hvalue
  obtain ⟨before, behind, hsettings, -⟩ := List.lookup_eq_some_iff.1 hvalue
  exact h (hsettings ▸ List.mem_append_right before List.mem_cons_self)

theorem NoEmptyRoot.set {s : Setting} {value : String} (h : g.NoEmptyRoot)
    (hset : g.set s value = .ok g') :
    g'.NoEmptyRoot := by
  rw [Given.set] at hset
  split at hset
  · cases hset
  · rename_i hfine
    cases hset
    intro hmem
    rcases List.mem_cons.1 hmem with heq | hmem
    · cases heq
      exact hfine (by simp)
    · exact h hmem

theorem turnOn_settings {s : Switch} (h : g.turnOn step s = .ok g') : g'.settings = g.settings := by
  unfold turnOn at h
  split at h
  · cases h
  · cases h
  · split at h
    · cases h
    · cases h
      rfl

theorem turnOnAll_settings {letters : List Char} (h : g.turnOnAll step letters = .ok g') :
    g'.settings = g.settings := by
  induction letters generalizing g with
  | nil =>
      cases h
      rfl
  | cons letter letters ih =>
      rw [turnOnAll] at h
      split at h
      · cases h
      · obtain ⟨next, hfirst, hrest⟩ := exists_of_bind_eq_ok h
        exact (ih hrest).trans (turnOn_settings hfirst)

end Given

namespace Reading

variable {r r' : Reading}

theorem noEmptyRoot_iff : r.NoEmptyRoot ↔ r.given.NoEmptyRoot ∧ ∀ g ∈ r.outer, g.NoEmptyRoot :=
  List.forall_mem_cons

/-- The options of the innermost step are replaced by some that give no empty root either. -/
theorem NoEmptyRoot.map_given {result : Except Stop Given} (h : r.NoEmptyRoot)
    (hresult : ∀ given, result = .ok given → given.NoEmptyRoot)
    (hr : (result.map fun given => { r with given }) = .ok r') : r'.NoEmptyRoot := by
  cases result with
  | error stop => cases hr
  | ok given =>
      cases hr
      exact noEmptyRoot_iff.2 ⟨hresult given rfl, (noEmptyRoot_iff.1 h).2⟩

theorem NoEmptyRoot.long {name : String} {value : Option String} (h : r.NoEmptyRoot)
    (hr : r.long name value = .ok r') : r'.NoEmptyRoot := by
  have hgiven := (noEmptyRoot_iff.1 h).1
  unfold Reading.long at hr
  split at hr
  · exact h.map_given (fun _ hset => hgiven.set hset) hr
  · refine h.map_given (fun given hturn => ?_) hr
    rw [Given.NoEmptyRoot, Given.turnOn_settings hturn]
    exact hgiven
  · cases hr

/-- A word that is read gives no empty root. -/
theorem NoEmptyRoot.takeOne {w : Word} (h : r.NoEmptyRoot) (hr : r.takeOne w = .ok r') :
    r'.NoEmptyRoot := by
  cases w with
  | lastOption => cases hr
  | long name value => exact h.long hr
  | letters ls =>
      refine h.map_given (fun given hturn => ?_) hr
      rw [Given.NoEmptyRoot, Given.turnOnAll_settings hturn]
      exact (noEmptyRoot_iff.1 h).1
  | plain text =>
      change r.enter text = .ok r' at hr
      rw [enter] at hr
      split at hr
      · cases hr
        exact noEmptyRoot_iff.2 ⟨List.not_mem_nil, h⟩
      · cases hr

/-- Words that are read one after the other give no empty root. -/
theorem NoEmptyRoot.readAll {words : List String} (h : r.NoEmptyRoot)
    (hr : r.readAll words = .ok r') :
    r'.NoEmptyRoot := by
  induction r, words using Reading.readAll.induct with
  | case1 r =>
      cases hr
      exact h
  | case2 r word hhelp =>
      rw [Reading.readAll, if_pos hhelp] at hr
      cases hr
  | case3 r word hhelp hlast =>
      rw [Reading.readAll, if_neg hhelp, hlast] at hr
      cases hr
      exact h
  | case4 r word hhelp hother =>
      rw [Reading.readAll, if_neg hhelp] at hr
      split at hr
      · contradiction
      · exact h.takeOne hr
  | case5 r word next rest hhelp =>
      rw [Reading.readAll, if_pos hhelp] at hr
      cases hr
  -- A long option with its value in the next word.
  | case6 r word next rest hhelp name hword hsetting hplain ih =>
      simp only [Reading.readAll, if_neg hhelp, hword, if_pos hsetting, if_pos hplain] at hr
      obtain ⟨r', hlong, hrest⟩ := exists_of_bind_eq_ok hr
      exact ih r' (h.long hlong) hrest
  | case7 r word next rest hhelp name hword hsetting hplain =>
      simp only [Reading.readAll, if_neg hhelp, hword, if_pos hsetting, if_neg hplain] at hr
      cases hr
  | case8 r word next rest hhelp name hword hsetting ih =>
      simp only [Reading.readAll, if_neg hhelp, hword, if_neg hsetting] at hr
      obtain ⟨r', hone, hrest⟩ := exists_of_bind_eq_ok hr
      exact ih r' (h.takeOne hone) hrest
  | case9 r word next rest hhelp hother ih =>
      rw [Reading.readAll, if_neg hhelp] at hr
      split at hr
      · rename_i name hword
        exact absurd hword (hother name)
      · obtain ⟨r', hone, hrest⟩ := exists_of_bind_eq_ok hr
        exact ih r' (h.takeOne hone) hrest

/-- The root is not empty, whether it is given or is the usual one. -/
theorem root_ne_empty {usual root : Option String} (h : r.NoEmptyRoot)
    (hroot : r.root usual = .ok root) :
    root ≠ some "" := by
  rw [Reading.root] at hroot
  split at hroot
  · cases hroot
  · rename_i husual
    cases hroot
    cases hgiven : r.allGiven.findSome? (·.value? .root) with
    | some root =>
        obtain ⟨g, hg, hvalue⟩ := List.exists_of_findSome?_eq_some hgiven
        rintro ⟨⟩
        exact (h g hg).value?_ne hvalue
    | none =>
        rintro rfl
        have hnone := List.findSome?_eq_none_iff.1 hgiven r.given List.mem_cons_self
        refine husual ?_
        rw [Bool.and_eq_true, List.any_eq_true]
        refine ⟨by simp, r.given, List.mem_cons_self, ?_⟩
        rw [hnone]
        rfl

end Reading

/-- A command line never gives an empty root. -/
theorem Invocation.root_ne_empty {usualRoot : Option String} {arguments : List String}
    {i : Invocation}
    (h : Invocation.ofArguments usualRoot arguments = .ok i) : i.root ≠ some "" := by
  obtain ⟨r, hread, h⟩ := exists_of_bind_eq_ok h
  obtain ⟨root, hroot, h⟩ := exists_of_bind_eq_ok h
  have hnone : r.NoEmptyRoot := by
    refine Reading.NoEmptyRoot.readAll ?_ hread
    exact Reading.noEmptyRoot_iff.2 ⟨List.not_mem_nil, List.forall_mem_nil _⟩
  split at h
  · cases h
    exact Reading.root_ne_empty hnone hroot
  · cases h

/-! ## Roots that are looked up -/

variable {d e : Disk}

theorem nearestWith?_mem {marker : String} {p : Path} (h : nearestWith? d marker = some p) :
    p ∈ (currentPath d).ancestors := List.mem_of_find?_eq_some h

/-- The root is the current directory or one around it. -/
theorem rootAround_mem (d : Disk) : rootAround d ∈ (currentPath d).ancestors := by
  rw [rootAround]
  cases hproject : nearestWith? d Project.directoryName with
  | some p => exact nearestWith?_mem hproject
  | none =>
      cases hrepository : nearestWith? d repositoryMarker with
      | some p => exact nearestWith?_mem hrepository
      | none => exact List.mem_cons_self

theorem rootAround_ne_empty (d : Disk) : (rootAround d).text ≠ "" := by
  refine Path.text_ne_of_mem_ancestors ?_ (rootAround_mem d)
  rw [Path.isAbsolute, currentPath, String.toList_append]
  rfl

/-- The current directory and those around it, as far as a root that is one of them. -/
def below (d : Disk) (root : Path) : List Path :=
  (currentPath d).ancestors.takeWhile fun p => p.text != root.text

/-- The first path with a property is a given one with it exactly if no path before that has it. -/
theorem find?_eq_some_iff_takeWhile {P : Path → Bool} {root : Path} {ps : List Path}
    (hroot : root ∈ ps) (hP : P root = true) :
    ps.find? P = some root ↔ ∀ p ∈ ps.takeWhile fun p => p.text != root.text, P p = false := by
  induction ps with
  | nil => cases hroot
  | cons p ps ih =>
      rw [List.takeWhile_cons]
      by_cases hsame : p.text = root.text
      · have heq : p = root := congrArg Path.mk hsame
        rw [heq, List.find?_cons_of_pos hP, bne_self_eq_false, if_neg Bool.false_ne_true]
        exact iff_of_true rfl (List.forall_mem_nil _)
      · have hne : root ≠ p := fun h => hsame (congrArg Path.text h.symm)
        rw [bne_iff_ne.2 hsame, if_pos rfl, List.forall_mem_cons]
        cases hp : P p with
        | true =>
            rw [List.find?_cons_of_pos hp]
            exact iff_of_false (fun h => hne (Option.some.inj h).symm)
              fun h => Bool.false_ne_true h.1.symm
        | false =>
            rw [List.find?_cons_of_neg (Bool.not_eq_true _ ▸ hp),
              ih ((List.mem_cons.1 hroot).resolve_left hne)]
            exact (and_iff_right rfl).symm

/--
Where a directory around the current one is a project, it is the root exactly if nothing between it
and the current directory is a project.
-/
theorem rootAround_eq_iff {root : Path} (hroot : root ∈ (currentPath d).ancestors)
    (hproject : d.isDirectory (root.join Project.directoryName) = true) :
    rootAround d = root ↔
      ∀ p ∈ below d root, d.isDirectory (p.join Project.directoryName) = false := by
  obtain ⟨p, hp⟩ : ∃ p, nearestWith? d Project.directoryName = some p :=
    Option.isSome_iff_exists.1 (List.find?_isSome.2 ⟨root, hroot, hproject⟩)
  have hnearest :=
    find?_eq_some_iff_takeWhile (P := fun p => d.isDirectory (p.join Project.directoryName))
    hroot hproject
  rw [below, ← hnearest, rootAround, hp]
  change p = root ↔ nearestWith? d Project.directoryName = some root
  rw [hp, Option.some.injEq]

theorem currentPath_congr (h : e.here = d.here) : currentPath e = currentPath d := by
  rw [currentPath, currentPath, h]

/--
The root that a command works on: the one it is given, or the one around the current directory.
-/
def rootFor (given : Option String) (d : Disk) : Path := (given.map Path.mk).getD (rootAround d)

theorem rootFor_some (root : String) (d : Disk) : rootFor (some root) d = ⟨root⟩ := by
  rw [rootFor, Option.map_some, Option.getD_some]

theorem rootFor_none (d : Disk) : rootFor none d = rootAround d := by
  rw [rootFor, Option.map_none, Option.getD_none]

theorem rootFor_ne_empty {given : Option String} (h : given ≠ some "") (d : Disk) :
    (rootFor given d).text ≠ "" := by
  cases given with
  | none => exact rootFor_none d ▸ rootAround_ne_empty d
  | some root => exact fun hempty => h (congrArg some hempty)

/--
From the same current directory, a directory that was the root of a command and is a project is the
root of the next one exactly if it is given, or if nothing nearer is a project.
-/
theorem rootFor_eq_iff {given : Option String} (hhere : e.here = d.here)
    (hproject : e.isDirectory ((rootFor given d).join Project.directoryName) = true) :
    rootFor given e = rootFor given d ↔
      (given = none → ∀ p ∈ below d (rootFor given d),
        e.isDirectory (p.join Project.directoryName) = false) := by
  have hcurrent := currentPath_congr hhere
  cases given with
  | some root =>
      rw [rootFor_some, rootFor_some]
      exact iff_of_true rfl fun h => nomatch h
  | none =>
      rw [rootFor_none] at hproject
      rw [rootFor_none, rootFor_none]
      have hmem : rootAround d ∈ (currentPath e).ancestors := hcurrent ▸ rootAround_mem d
      have hsame := rootAround_eq_iff hmem hproject
      rw [below, hcurrent] at hsame
      exact hsame.trans ⟨fun hnearer _ => hnearer, fun hnearer => hnearer rfl⟩

end CommandLine
end WorkItems
