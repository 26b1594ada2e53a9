import WorkItems.FrontMatter.Printer
import WorkItems.Proofs.Text.Lines
import WorkItems.Proofs.Text.Trim
import WorkItems.Proofs.Yaml.Literal
/-!
# Lines that are moved to the right

`shifted` works on the lines of a text; `moved` says the same character by character, so that it can
be pushed through a text that is put together from pieces.
-/

namespace WorkItems.FrontMatter

open Yaml

/-- Two spaces in front of each line. -/
def moved (atStart : Bool) : List Char → List Char
  | [] => []
  | c :: cs => (if atStart then [' ', ' '] else []) ++ c :: moved (c == '\n') cs

theorem moved_append (cs ds : List Char) :
    ∀ atStart, moved atStart (cs ++ ds) =
      moved atStart cs ++ moved (startsBehind (· == '\n') atStart cs) ds := by
  induction cs with
  | nil => exact fun _ => rfl
  | cons c cs ih =>
      intro atStart
      rw [startsBehind_cons, List.cons_append, moved, moved, ih, List.append_assoc,
        List.cons_append]

/-- Within a line nothing moves. -/
theorem moved_false {cs : List Char} (h : '\n' ∉ cs) : moved false cs = cs := by
  induction cs with
  | nil => rfl
  | cons c cs ih =>
      rw [List.mem_cons, not_or] at h
      have hc : (c == '\n') = false := by simpa using Ne.symm h.1
      rw [moved, hc, ih h.2]
      rfl

theorem startsBehind_of_not_mem {cs : List Char} (h : '\n' ∉ cs) (atStart : Bool) :
    startsBehind (· == '\n') atStart cs = if cs.isEmpty then atStart else false := by
  cases hlast : cs.getLast? with
  | none =>
      obtain rfl := List.getLast?_eq_none_iff.1 hlast
      rfl
  | some c =>
      have hc : c ≠ '\n' := fun hc => h (hc ▸ List.mem_of_getLast? hlast)
      have hne : cs.isEmpty = false := by
        cases cs with
        | nil => cases hlast
        | cons _ _ => rfl
      simp [startsBehind, hlast, hc, hne]

theorem startsBehind_false {cs : List Char} (h : '\n' ∉ cs) :
    startsBehind (· == '\n') false cs = false := by
  rw [startsBehind_of_not_mem h]
  exact ite_self _

theorem moved_line {line : List Char} (h : '\n' ∉ line) (rest : List Char) :
    moved true (line ++ '\n' :: rest) = ' ' :: ' ' :: line ++ '\n' :: moved true rest := by
  cases line with
  | nil => rfl
  | cons c cs =>
      rw [List.mem_cons, not_or] at h
      have hc : (c == '\n') = false := by simpa using Ne.symm h.1
      rw [List.cons_append, moved, hc, moved_append, startsBehind_of_not_mem h.2, moved_false h.2,
        moved]
      simp

theorem chomp_line {line : List Char} (h : '\n' ∉ line) (hr : '\r' ∉ line) :
    Text.chomp (line ++ ['\n']) = line := by
  rw [Text.chomp_append_lineFeed, Text.chomp]
  have hhead : ∀ c, line.reverse.head? = some c → Text.isLineEnd c = false := by
    intro c hc
    have hmem : c ∈ line := List.mem_reverse.1 (List.mem_of_head? hc)
    have hn : c ≠ '\n' := fun e => h (e ▸ hmem)
    have hr : c ≠ '\r' := fun e => hr (e ▸ hmem)
    simp [Text.isLineEnd, hn, hr]
  rw [Text.dropWhile_eq_self hhead, List.reverse_reverse]

/-- A text of whole lines without carriage returns is moved line by line. -/
theorem flatMap_shiftLine {cs : List Char} (hr : '\r' ∉ cs)
    (hend : cs = [] ∨ cs.getLast? = some '\n') :
    (Text.lines cs).flatMap shiftLine = moved true cs := by
  induction hlength : cs.length using Nat.strongRecOn generalizing cs with
  | ind n ih =>
      rcases hend with rfl | hend
      · rfl
      · have hmem : '\n' ∈ cs := List.mem_of_getLast? hend
        obtain ⟨line, rest, rfl, hline⟩ := List.eq_append_cons_of_mem hmem
        simp only [List.mem_append, List.mem_cons, not_or] at hr
        have hrest : rest = [] ∨ rest.getLast? = some '\n' := by
          cases rest with
          | nil => exact .inl rfl
          | cons d ds => exact .inr (by simpa [List.getLast?_cons] using hend)
        have hlt : rest.length < n := by
          rw [← hlength, List.length_append, List.length_cons]
          omega
        rw [Text.lines_append_line hline, List.flatMap_cons, moved_line hline, shiftLine,
          chomp_line hline hr.1, ih _ hlt hr.2.2 hrest rfl]
        simp

theorem shifted_eq {text : String} (hr : '\r' ∉ text.toList)
    (hend : text.toList = [] ∨ text.toList.getLast? = some '\n') :
    (shifted text).toList = moved true text.toList := by
  rw [shifted, String.toList_ofList, flatMap_shiftLine hr hend]

end WorkItems.FrontMatter
