import WorkItems.Disk
import WorkItems.Proofs.Dict
/-!
# Rewriting the files of a tree

Putting a text in the place of a file changes that file and nothing else, and so does a whole row of
such steps: it comes to the same as going through the tree once and asking of each file what its new
text is (`FileTree.rewrite`). This needs a tree as a disk has it, in which each name of a directory
comes once and is one that a file can have (`FileTree.WellFormed`).
-/

namespace WorkItems

/-- A name that an entry of a directory can have. -/
structure IsFileName (name : String) : Prop where
  ne_empty : name ≠ ""
  ne_dot : name ≠ "."
  ne_dots : name ≠ ".."
  noSlash : '/' ∉ name.toList
  noZero : '\x00' ∉ name.toList
  short : name.utf8ByteSize ≤ Disk.nameLimit

theorem isFileName_iff {name : String} :
    IsFileName name ↔ name ≠ "" ∧ name ≠ "." ∧ name ≠ ".." ∧ '/' ∉ name.toList ∧
      '\x00' ∉ name.toList ∧ name.utf8ByteSize ≤ Disk.nameLimit := by
  constructor
  · intro h
    exact ⟨h.ne_empty, h.ne_dot, h.ne_dots, h.noSlash, h.noZero, h.short⟩
  · rintro ⟨hempty, hdot, hdots, hslash, hzero, hshort⟩
    exact ⟨hempty, hdot, hdots, hslash, hzero, hshort⟩

instance (name : String) : Decidable (IsFileName name) := decidable_of_iff _ isFileName_iff.symm

namespace FileTree

mutual

/-- Directories hold each name once, in order, and only names that a file can have. -/
def WellFormed : FileTree → Prop
  | file _ => True
  | directory es => Entries.Sorted es ∧ WellFormedEntries es

def WellFormedEntries : List (String × FileTree) → Prop
  | [] => True
  | (name, t) :: es => IsFileName name ∧ t.WellFormed ∧ WellFormedEntries es

end

mutual

/-- The tree with new texts for the files for which there are some. `place` is where it lies. -/
def rewrite (new : Location → Option String) (place : Location) : FileTree → FileTree
  | file c => file ((new place).elim c .text)
  | directory es => directory (rewriteEntries new place es)

def rewriteEntries (new : Location → Option String) (place : Location) :
    List (String × FileTree) → List (String × FileTree)
  | [] => []
  | (name, t) :: es => (name, t.rewrite new (place ++ [name])) :: rewriteEntries new place es

end

variable {new new' : Location → Option String}

/-! ## What is found -/

theorem wellFormed_of_find? {name : String} {es : List (String × FileTree)} {t : FileTree}
    (hes : WellFormedEntries es) (h : Entries.find? name es = some t) :
    IsFileName name ∧ t.WellFormed := by
  induction es with
  | nil => cases h
  | cons e es ih =>
      obtain ⟨k, u⟩ := e
      obtain ⟨hk, hu, hes⟩ := hes
      rw [Entries.find?] at h
      split at h
      · rename_i heq
        cases h
        exact ⟨heq ▸ hk, hu⟩
      · exact ih hes h

/-- A way down can be taken in two parts. -/
theorem find?_append (place rest : Location) (t : FileTree) :
    t.find? (place ++ rest) = (t.find? place).bind (find? rest) := by
  induction place generalizing t with
  | nil => rfl
  | cons name place ih =>
      cases t with
      | file c => rfl
      | directory es =>
          rw [List.cons_append, find?, find?, Option.bind_assoc]
          exact congrArg _ (funext fun u => ih u)

/-- On a way down in a well-formed tree there are only names that a file can have. -/
theorem isFileName_of_find? {t u : FileTree} {rest : Location} (ht : t.WellFormed)
    (h : t.find? rest = some u) : ∀ name ∈ rest, IsFileName name := by
  induction rest generalizing t with
  | nil => exact fun _ hname => nomatch hname
  | cons name rest ih =>
      cases t with
      | file c => cases h
      | directory es =>
          rw [find?] at h
          obtain ⟨v, hv, h⟩ := Option.bind_eq_some_iff.1 h
          obtain ⟨hname, hwell⟩ := wellFormed_of_find? ht.2 hv
          exact List.forall_mem_cons.2 ⟨hname, ih hwell h⟩

theorem isDirectory_rewrite (place : Location) (t : FileTree) :
    (t.rewrite new place).isDirectory = t.isDirectory := by
  cases t with
  | file c => rw [rewrite]; rfl
  | directory es => rw [rewrite]; rfl

theorem entriesFind?_rewriteEntries (place : Location) (name : String)
    (es : List (String × FileTree)) :
    Entries.find? name (rewriteEntries new place es) =
      (Entries.find? name es).map (rewrite new (place ++ [name])) := by
  induction es with
  | nil => rw [rewriteEntries]; rfl
  | cons e es ih =>
      obtain ⟨k, t⟩ := e
      rw [rewriteEntries, Entries.find?, Entries.find?]
      split
      · rename_i heq
        rw [heq]
        rfl
      · exact ih

/-- Rewriting finds at every place what was there, rewritten. -/
theorem find?_rewrite (place rest : Location) (t : FileTree) :
    (t.rewrite new place).find? rest = (t.find? rest).map (rewrite new (place ++ rest)) := by
  induction rest generalizing t place with
  | nil => rw [List.append_nil]; rfl
  | cons name rest ih =>
      cases t with
      | file c => rw [rewrite]; rfl
      | directory es =>
          rw [rewrite, find?, find?, entriesFind?_rewriteEntries]
          cases Entries.find? name es with
          | none => rfl
          | some u =>
              have h := ih (place ++ [name]) u
              rw [List.append_assoc] at h
              exact h

theorem hasDirectory_rewrite (place : Location) (t : FileTree) :
    (t.rewrite new []).hasDirectory place = t.hasDirectory place := by
  rw [hasDirectory, hasDirectory, find?_rewrite]
  cases t.find? place with
  | none => rfl
  | some u => exact isDirectory_rewrite _ u

theorem isSome_find?_rewrite (place : Location) (t : FileTree) :
    ((t.rewrite new []).find? place).isSome = (t.find? place).isSome := by
  rw [find?_rewrite, Option.isSome_map]

/-! ## Rewriting one file more -/

mutual

theorem rewrite_congr : ∀ (t : FileTree) (place : Location),
    (∀ rest, new (place ++ rest) = new' (place ++ rest)) →
      t.rewrite new place = t.rewrite new' place
  | file c, place, h => by
      have hplace := h []
      rw [List.append_nil] at hplace
      rw [rewrite, rewrite, hplace]
  | directory es, place, h => by
      rw [rewrite, rewrite, rewriteEntries_congr es place fun k _ rest => h (k :: rest)]

theorem rewriteEntries_congr : ∀ (es : List (String × FileTree)) (place : Location),
    (∀ k ∈ es.map (·.1), ∀ rest, new (place ++ k :: rest) = new' (place ++ k :: rest)) →
      rewriteEntries new place es = rewriteEntries new' place es
  | [], place, h => by rw [rewriteEntries, rewriteEntries]
  | (name, t) :: es, place, h => by
      have ht : ∀ rest, new (place ++ [name] ++ rest) = new' (place ++ [name] ++ rest) := by
        intro rest
        rw [List.append_assoc]
        exact h name (List.mem_cons_self ..) rest
      rw [rewriteEntries, rewriteEntries, rewrite_congr t _ ht,
        rewriteEntries_congr es place fun k hk => h k (List.mem_cons_of_mem _ hk)]

end

mutual

theorem rewrite_none : ∀ (t : FileTree) (place : Location), t.rewrite (fun _ => none) place = t
  | file c, place => by rw [rewrite]; rfl
  | directory es, place => by rw [rewrite, rewriteEntries_none es place]

theorem rewriteEntries_none : ∀ (es : List (String × FileTree)) (place : Location),
    rewriteEntries (fun _ => none) place es = es
  | [], place => by rw [rewriteEntries]
  | (name, t) :: es, place => by
      rw [rewriteEntries, rewrite_none t, rewriteEntries_none es place]

end

/--
In a row of names in order, a new entry for a name that is there takes the place of the old one.
-/
theorem insert_rewriteEntries {name : String} {es : List (String × FileTree)} {t : FileTree}
    {place : Location} (hes : Entries.Sorted es) (hfind : Entries.find? name es = some t)
    (hagree : ∀ k, k ≠ name → ∀ rest, new (place ++ k :: rest) = new' (place ++ k :: rest)) :
    Entries.insert name (t.rewrite new' (place ++ [name])) (rewriteEntries new place es) =
      rewriteEntries new' place es := by
  induction es with
  | nil => cases hfind
  | cons e es ih =>
      obtain ⟨k, u⟩ := e
      obtain ⟨hk, hes⟩ := List.pairwise_cons.1 hes
      rw [Entries.find?] at hfind
      rw [rewriteEntries, rewriteEntries, Entries.insert]
      split at hfind
      · rename_i heq
        cases hfind
        subst heq
        have hrest : ∀ l ∈ es.map (·.1), ∀ rest,
            new (place ++ l :: rest) = new' (place ++ l :: rest) := by
          intro l hl
          obtain ⟨e, he, rfl⟩ := List.mem_map.1 hl
          exact hagree e.1 fun heq => String.lt_irrefl _ (heq ▸ hk e he)
        rw [if_neg (String.lt_irrefl k), if_pos rfl, rewriteEntries_congr es place hrest]
      · rename_i hne
        have hlt : k < name := hk _ (Entries.mem_of_find? hfind)
        have hu : ∀ rest, new (place ++ [k] ++ rest) = new' (place ++ [k] ++ rest) := by
          intro rest
          rw [List.append_assoc]
          exact hagree k hne rest
        rw [if_neg fun hgt => String.lt_irrefl _ (String.lt_trans hlt hgt),
          if_neg fun heq => hne heq.symm, ih hes hfind, rewrite_congr u _ hu]

/-- Putting a text in the place of a file of a rewritten tree is rewriting one file more. -/
theorem put_rewrite {text : String} (place rest : Location) {t : FileTree} {c : Content}
    (ht : t.WellFormed) (hfile : t.find? rest = some (file c))
    (hnew : new' (place ++ rest) = some text)
    (hagree : ∀ p, p ≠ place ++ rest → new p = new' p) :
    (t.rewrite new place).put rest (file (.text text)) = t.rewrite new' place := by
  induction rest generalizing t place with
  | nil =>
      cases hfile
      rw [List.append_nil] at hnew
      rw [put, rewrite, hnew]
      rfl
  | cons name rest ih =>
      cases t with
      | file c => cases hfile
      | directory es =>
          obtain ⟨hsorted, hes⟩ := ht
          rw [find?] at hfile
          obtain ⟨u, hu, hfile⟩ := Option.bind_eq_some_iff.1 hfile
          have hput : (u.rewrite new (place ++ [name])).put rest (file (.text text)) =
              u.rewrite new' (place ++ [name]) := by
            refine ih (place ++ [name]) (wellFormed_of_find? hes hu).2 hfile ?_ ?_
            · rw [List.append_assoc]
              exact hnew
            · intro p hp
              rw [List.append_assoc] at hp
              exact hagree p hp
          have hfind : Entries.find? name (rewriteEntries new place es) =
              some (u.rewrite new (place ++ [name])) := by
            rw [entriesFind?_rewriteEntries, hu]
            rfl
          rw [rewrite, rewrite, put, hfind, Option.getD_some, hput,
            insert_rewriteEntries hsorted hu]
          intro k hk tail
          refine hagree _ fun heq => hk ?_
          exact (List.cons.inj (List.append_cancel_left heq)).1

/-! ## The files that are listed -/

mutual

theorem listing_spec : ∀ (t : FileTree) (place : Location), t.WellFormed →
    ((t.listing place).map (·.1)).Nodup ∧
      ∀ e ∈ t.listing place, ∃ rest, e.1 = place ++ rest ∧
        ∀ c, e.2 = some c → t.find? rest = some (file c)
  | file c, place, _ => by
      rw [listing]
      refine ⟨List.pairwise_singleton .., fun e he => ?_⟩
      obtain rfl := List.mem_singleton.1 he
      exact ⟨[], (List.append_nil _).symm, fun c h => by cases h; rfl⟩
  | directory es, place, ht => by
      obtain ⟨hnodup, hfound⟩ := listingOf_spec es place ht.1 ht.2
      rw [listing, List.map_cons]
      refine ⟨List.nodup_cons.2 ⟨fun hmem => ?_, hnodup⟩, fun e he => ?_⟩
      · obtain ⟨e, he, heq⟩ := List.mem_map.1 hmem
        obtain ⟨name, -, rest, hrest, -⟩ := hfound e he
        have hlen := congrArg List.length (heq.symm.trans hrest)
        simp at hlen
      · rcases List.mem_cons.1 he with rfl | he
        · exact ⟨[], (List.append_nil _).symm, fun c h => nomatch h⟩
        · obtain ⟨name, u, rest, hrest, hu, hfile⟩ := hfound e he
          refine ⟨name :: rest, hrest, fun c hc => ?_⟩
          rw [find?, hu]
          exact hfile c hc

theorem listingOf_spec : ∀ (es : List (String × FileTree)) (place : Location),
    Entries.Sorted es → WellFormedEntries es →
      ((listingOf place es).map (·.1)).Nodup ∧
        ∀ e ∈ listingOf place es, ∃ name u rest, e.1 = place ++ name :: rest ∧
          Entries.find? name es = some u ∧ ∀ c, e.2 = some c → u.find? rest = some (file c)
  | [], place, _, _ => by
      rw [listingOf]
      exact ⟨List.nodup_nil, fun e he => nomatch he⟩
  | (name, t) :: es, place, hsorted, hes => by
      obtain ⟨hhead, hsorted⟩ := List.pairwise_cons.1 hsorted
      obtain ⟨hnodupT, hfoundT⟩ := listing_spec t (place ++ [name]) hes.2.1
      obtain ⟨hnodup, hfound⟩ := listingOf_spec es place hsorted hes.2.2
      have hother : ∀ k u, Entries.find? k es = some u → name ≠ k := fun k u hk heq =>
        String.lt_irrefl k (heq ▸ hhead _ (Entries.mem_of_find? hk))
      rw [listingOf, List.map_append]
      refine ⟨List.nodup_append.2 ⟨hnodupT, hnodup, ?_⟩, fun e he => ?_⟩
      · rintro p hp q hq rfl
        obtain ⟨e, he, rfl⟩ := List.mem_map.1 hp
        obtain ⟨e', he', heq⟩ := List.mem_map.1 hq
        obtain ⟨rest, hrest, -⟩ := hfoundT e he
        obtain ⟨k, u, rest', hrest', hu, -⟩ := hfound e' he'
        rw [heq, hrest, List.append_assoc] at hrest'
        exact hother k u hu (List.cons.inj (List.append_cancel_left hrest')).1
      · rcases List.mem_append.1 he with he | he
        · obtain ⟨rest, hrest, hfile⟩ := hfoundT e he
          rw [List.append_assoc] at hrest
          exact ⟨name, t, rest, hrest, by rw [Entries.find?, if_pos rfl], hfile⟩
        · obtain ⟨k, u, rest, hrest, hu, hfile⟩ := hfound e he
          refine ⟨k, u, rest, hrest, ?_, hfile⟩
          rw [Entries.find?, if_neg (hother k u hu), hu]

end

theorem nodup_files {t : FileTree} (ht : t.WellFormed) : t.files.Nodup := by
  rw [files]
  exact (listing_spec t [] ht).1.sublist (List.filter_sublist.map _)

/-- A listed file is found at its place. -/
theorem find?_of_mem_files {t : FileTree} (ht : t.WellFormed) {place : Location}
    (h : place ∈ t.files) : ∃ c, t.find? place = some (file c) := by
  rw [files] at h
  obtain ⟨e, he, rfl⟩ := List.mem_map.1 h
  obtain ⟨hmem, hsome⟩ := List.mem_filter.1 he
  obtain ⟨rest, hrest, hfile⟩ := (listing_spec t [] ht).2 e hmem
  obtain ⟨c, hc⟩ := Option.isSome_iff_exists.1 hsome
  rw [hrest]
  exact ⟨c, hfile c hc⟩

theorem mem_listingOf {name : String} {u : FileTree} {es : List (String × FileTree)}
    {base : Location} {e : Location × Option Content} (hu : (name, u) ∈ es)
    (he : e ∈ u.listing (base ++ [name])) : e ∈ listingOf base es := by
  induction es with
  | nil => cases hu
  | cons x es ih =>
      obtain ⟨k, t⟩ := x
      rw [listingOf, List.mem_append]
      rcases List.mem_cons.1 hu with heq | hu
      · cases heq
        exact .inl he
      · exact .inr (ih hu)

theorem mem_listing_of_find? {t : FileTree} (base : Location) {rest : Location} {c : Content}
    (h : t.find? rest = some (file c)) : (base ++ rest, some c) ∈ t.listing base := by
  induction rest generalizing t base with
  | nil =>
      cases h
      rw [listing, List.append_nil]
      exact List.mem_singleton.2 rfl
  | cons name rest ih =>
      cases t with
      | file c => cases h
      | directory es =>
          rw [find?] at h
          obtain ⟨u, hu, h⟩ := Option.bind_eq_some_iff.1 h
          have hmem := ih (base ++ [name]) h
          rw [List.append_assoc] at hmem
          rw [listing]
          exact List.mem_cons_of_mem _ (mem_listingOf (Entries.mem_of_find? hu) hmem)

/-- The listed files are those that are found. -/
theorem mem_files {t : FileTree} (ht : t.WellFormed) {place : Location} :
    place ∈ t.files ↔ ∃ c, t.find? place = some (file c) := by
  refine ⟨find?_of_mem_files ht, fun ⟨c, hc⟩ => ?_⟩
  rw [files]
  exact List.mem_map.2 ⟨_, List.mem_filter.2 ⟨mem_listing_of_find? [] hc, rfl⟩, rfl⟩

end FileTree
end WorkItems
