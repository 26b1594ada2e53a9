import WorkItems.Proofs.FrontMatter.PlainTexts
import WorkItems.Proofs.Yaml.NodeReadings
/-!
# Texts that are read as themselves

A text goes without quotes if it is read as data and the data is the text again. That rules out all
that gets lost on the way: what is no plain scalar, the breaks that a plain scalar folds, and a byte
order mark in front.
-/

namespace WorkItems.FrontMatter

open Yaml Yaml.Lexer

/-- What reads back as itself without quotes is a string that has no line break of its own. -/
structure ReadsBack (s : String) : Prop where
  noMark : s.toList.head? ≠ some '\ufeff'
  allowed : ∀ c ∈ s.toList, isAllowed c = true
  marker : atMarker s.toList = false
  resolves : resolve s.toList = .string
  noNextLine : '\u0085' ∉ s.toList

theorem ofText_of_readsAsItself {s : String} (h : readsAsItself s = true) :
    Data.ofText s = .ok (.string s) := by
  rw [readsAsItself] at h
  split at h
  · rename_i t hdata
    obtain rfl : t = s := by simpa using h
    exact hdata
  · cases h

/-- Data comes from a document, and a document from tokens. -/
theorem exists_tokens_of_ofText {s : String} {data : Data} (h : Data.ofText s = .ok data) :
    ∃ d ts, Yaml.Document.ofText s = .ok d ∧ tokens s.toList = .ok ts := by
  obtain ⟨d, hdocument, -⟩ := exists_of_bind_eq_ok h
  obtain ⟨ts, htokens, -⟩ := exists_of_bind_eq_ok hdocument
  exact ⟨d, ts, hdocument, htokens⟩

theorem isAllowed_of_tokens {cs : List Char} {ts : List Token} (h : tokens cs = .ok ts) :
    ∀ c ∈ cs, isAllowed c = true := by
  rw [tokens] at h
  split at h
  · cases h
  · rename_i hall
    exact List.all_eq_true.1 (by simpa using hall)

/-- A plain scalar does not hold a next-line character: where it is read, it is a line break. -/
theorem noNextLine_of_plain {cs : List Char} {text : String} {onNewLine : Bool} {after : Cursor}
    (h : plain false 0 .empty .start cs = .ok (text, onNewLine, after)) :
    '\u0085' ∉ text.toList := by
  have hchars := (plain_spec (q := fun c => c ≠ '\u0085') (by decide) allChars_empty (by
    intro c _
    split
    · rw [readBreak]
      split
      · rintro rfl
        contradiction
      · decide
    · rintro rfl
      contradiction) h).2
  exact fun hmem => hchars _ hmem rfl

/-- A marker would end the document in front of the text. -/
theorem not_atMarker_of_document {s : String} {d : Yaml.Document} {u : Lexer} {ts : List Token}
    (h : Unquoted s.toList) (hdocument : Yaml.Document.ofText s = .ok d)
    (htokens : tokens s.toList = .ok ts)
    (htoken : (inBlock [] true [] .start s.toList).tokenHere = .ok u)
    (hfirst : u.reversed.reverse <+: ts) : atMarker s.toList = false := by
  cases hmarker : atMarker s.toList with
  | false => rfl
  | true =>
      rw [tokenHere_marker h hmarker htoken] at hfirst
      obtain ⟨ts', rfl⟩ := hfirst
      obtain ⟨e, he⟩ := documentOfText_documentEnd htokens
      rw [he] at hdocument
      cases hdocument

/-- Where nothing is an alias, a string that is read is the text of a token. -/
theorem mem_tokens_of_ofText {s t : String} {d : Yaml.Document} {ts : List Token}
    (hdata : Data.ofText t = .ok (.string s)) (hdocument : Yaml.Document.ofText t = .ok d)
    (htokens : tokens t.toList = .ok ts) (halias : ∀ name, .aliasOf name ∉ ts) :
    s = "" ∨ ∃ style, .scalar s style ∈ ts := by
  cases hroot : d.root with
  | none =>
      simp only [Data.ofText, hdocument, bind, Except.bind, hroot] at hdata
      cases hdata
  | some root =>
      have hfrom := isFrom_root htokens hdocument hroot
      rw [dataOfText_of_root hdocument hroot] at hdata
      obtain ⟨m, hmeant, hm⟩ := givesIn_data (givesIn_of_run hdata)
      cases root with
      | aliasOf number => exact absurd hfrom.choose_spec (halias _)
      | sequence p items =>
          cases hmeant
          cases hm with
          | sequence h => rcases h with h | ⟨tag, h⟩ <;> cases h
      | mapping p entries =>
          cases hmeant
          cases hm with
          | mapping h _ => rcases h with h | ⟨tag, h⟩ <;> cases h
      | scalar p style text =>
          cases hmeant
          cases hm with
          | scalar h =>
              cases Gives.of_givesIn (gives_scalarData p style text) h
              exact hfrom.imp_right fun hmem => ⟨style, hmem⟩

/-- A byte order mark in front is lost, so what is read is shorter than the text. -/
theorem noMark_of_document {s : String} {d : Yaml.Document} {ts : List Token}
    (htame : Tame s.toList)
    (hdata : Data.ofText s = .ok (.string s)) (hdocument : Yaml.Document.ofText s = .ok d)
    (htokens : tokens s.toList = .ok ts) : s.toList.head? ≠ some '\ufeff' := by
  intro hmark
  obtain ⟨cs, hcs⟩ := List.head?_eq_some_iff.1 hmark
  have hwithin : ∀ t ∈ ts, IsWithin cs.length t :=
    tokens_behindMark (fun c hc => htame c (hcs ▸ List.mem_cons_of_mem _ hc)) (hcs ▸ htokens)
  have hlength : s.toList.length = cs.length + 1 := congrArg List.length hcs
  rcases mem_tokens_of_ofText hdata hdocument htokens fun _ hname => hwithin _ hname with
    rfl | ⟨style, hmem⟩
  · cases hlength
  · have hle : s.toList.length ≤ cs.length := hwithin _ hmem
    omega

theorem readsBack_of_readsAsItself {s : String} (h : Unquoted s.toList)
    (hself : readsAsItself s = true) : ReadsBack s := by
  have hdata := ofText_of_readsAsItself hself
  obtain ⟨d, ts, hdocument, htokens⟩ := exists_tokens_of_ofText hdata
  have hmark := noMark_of_document h.tame hdata hdocument htokens
  have hopens : Opens s.toList := by
    have hopens := (h.startsInLine.startsToken hmark).opens []
    rwa [List.append_nil] at hopens
  obtain ⟨u, htoken, hfirst⟩ := tokens_tame h.tame hopens htokens
  have hmarker := not_atMarker_of_document h hdocument htokens htoken hfirst
  obtain ⟨text, onNewLine, after, hplain, hreversed⟩ := tokenHere_unquoted h hmarker htoken
  rw [hreversed] at hfirst
  obtain ⟨ts', rfl⟩ := hfirst
  rw [dataOfText_of_root hdocument (root_of_scalar htokens hdocument), Read.run, data_scalar,
    if_pos (by decide), resolved] at hdata
  cases hresolve : resolve text.toList <;> rw [hresolve] at hdata <;> cases hdata
  exact ⟨hmark, isAllowed_of_tokens htokens, hmarker, hresolve, noNextLine_of_plain hplain⟩

end WorkItems.FrontMatter
