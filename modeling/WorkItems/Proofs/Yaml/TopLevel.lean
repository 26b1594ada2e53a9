import WorkItems.Proofs.Yaml.BlockStyle
import WorkItems.Proofs.Yaml.Meaning
/-!
# Documents that are mappings

A document whose lines are the entries of one mapping in the first column is cut into the tokens of
that mapping.
-/

namespace WorkItems.Yaml

open Lexer

/-- At the end of the text the mapping closes. -/
theorem goOn_end (fuel : Nat) (ts : List Token) (p : Position) :
    ∃ u, goOn fuel (inBlock [0] true ts p []) = .ok u ∧
      u.reversed = .streamEnd :: .blockEnd :: ts := by
  obtain ⟨u, htoken, hended, htokens⟩ : ∃ u, tokenHere (inBlock [0] true ts p []) = .ok u ∧
      u.ended = true ∧ u.reversed = .streamEnd :: .blockEnd :: ts :=
    ⟨_, rfl, rfl, rfl⟩
  refine ⟨u, ?_, htokens⟩
  rw [goOn, htoken, Except.bind]
  cases fuel with
  | zero => rfl
  | succ fuel => rw [run, hended, if_pos rfl]

/-- A text of entries is cut into the tokens of one mapping. -/
theorem tokens_entries {text : List Char} {ts : List Token}
    (h : ReadsLines .blockMappingStart 0 text ts) (hallowed : ∀ c ∈ text, isAllowed c = true) :
    tokens text = .ok (.blockMappingStart :: (ts ++ [.blockEnd]) ++ [.streamEnd]) := by
  have hstart : Lexer.start text = inBlock [] true [] .start text := rfl
  have hopens : Opens text := by
    have hopens := h.starts.opens []
    rwa [List.append_nil] at hopens
  have hsettle : settle (inBlock [] true [] .start text) =
      .ok (inBlock [] true [] .start text) := by
    rw [settle_gap _ _ (skipGap_of_opens hopens ..), landing_of_le (by simp)]
  obtain ⟨p', hp', n, hn, hrun⟩ : ∃ p' : Position, p'.column = 0 ∧
      Reaches (inBlock [] true [] .start text)
        (landing [0] true (ts.reverse ++ [.blockMappingStart]) p' []) := by
    obtain ⟨p', hp', hreach⟩ := @ReadsLines.reaches _ _ _ _ h [] [] .start 0 [] rfl (by simp)
      (Nat.le_refl _) (by simp [Opens, OpensInLine])
    rw [List.replicate_zero, List.append_nil, List.append_nil] at hreach
    exact ⟨p', hp', hreach⟩
  have hlength : n ≤ text.length := Nat.le_of_add_right_le hn
  have hall : text.all isAllowed = true := List.all_eq_true.2 hallowed
  have hlanding : landing [0] true (ts.reverse ++ [.blockMappingStart]) p' [] =
      inBlock [0] true (ts.reverse ++ [.blockMappingStart]) p' [] :=
    landing_of_le (by simp)
  obtain ⟨u, hgo, htokens⟩ := goOn_end (text.length + 1 - n)
    (ts.reverse ++ [.blockMappingStart]) p'
  have hfuel : text.length + 1 = n + (text.length + 1 - n) := by omega
  have hall' : run (text.length + 2) (inBlock [] true [] .start text) = .ok u := by
    rw [run_succ rfl, hsettle, Except.bind, hfuel, hrun]
    exact (congrArg _ hlanding).trans hgo
  simp only [tokens, hall, hstart, hall', bind, Except.bind, htokens]
  simp

end WorkItems.Yaml
