import WorkItems.Proofs.Decimal.Digits
import WorkItems.Proofs.Except
import WorkItems.Proofs.Text.Bytes
import WorkItems.Proofs.Text.Cuts
import WorkItems.Proofs.Text.Trim
import WorkItems.Url
/-!
# What a URL says of its text

The text of a URL is put together from a scheme, an authority, a path and the query and fragment
behind it, and an authority from a user, a host and a port. What makes a text one of these parts is
said here without following the reader, and a text has at most one such cut.

A host in brackets holds an IPv6 address: eight groups, the last two of which may be an IPv4
address, or fewer with `::` in place of groups of zeros.
-/

namespace WorkItems.Url

/-! ## IPv6 addresses -/

/-- Four numbers up to 255 in decimal digits, with dots between them. -/
def IsIPv4 (cs : List Char) : Prop :=
  ∃ a b c d, a ≤ 255 ∧ b ≤ 255 ∧ c ≤ 255 ∧ d ≤ 255 ∧
    cs = Decimal.digits a ++ '.' ::
      (Decimal.digits b ++ '.' :: (Decimal.digits c ++ '.' :: Decimal.digits d))

/-- One to four hexadecimal digits. -/
def IsGroup (cs : List Char) : Prop := cs ≠ [] ∧ cs.length ≤ 4 ∧ ∀ c ∈ cs, Text.isHex c = true

/--
So many groups with colons between them. Where it is allowed an IPv4 address may stand for the last
two.
-/
inductive IsRun (allowIPv4 : Bool) : List Char → Nat → Prop
  | group {g : List Char} : IsGroup g → IsRun allowIPv4 g 1
  | ipv4 {q : List Char} : allowIPv4 = true → IsIPv4 q → IsRun allowIPv4 q 2
  | cons {g cs : List Char} {n : Nat} :
      IsGroup g → IsRun allowIPv4 cs n → IsRun allowIPv4 (g ++ ':' :: cs) (n + 1)

/-- Nothing, or a run of groups. -/
def IsRunOrNil (allowIPv4 : Bool) (cs : List Char) (n : Nat) : Prop :=
  cs = [] ∧ n = 0 ∨ IsRun allowIPv4 cs n

inductive IsIPv6 : List Char → Prop
  | full {cs : List Char} : IsRun true cs 8 → IsIPv6 cs
  | short {head tail : List Char} {m n : Nat} : IsRunOrNil false head m → IsRunOrNil true tail n →
      m + n ≤ 7 → IsIPv6 (head ++ ':' :: ':' :: tail)

theorem isGroup_iff {cs : List Char} : isGroup cs = true ↔ IsGroup cs := by
  simp [isGroup, IsGroup, and_assoc]

theorem isOctet_spec {cs : List Char} (h : isOctet cs = true) :
    ∃ n, n ≤ 255 ∧ cs = Decimal.digits n := by
  simp only [isOctet, Bool.and_eq_true, Bool.or_eq_true, Bool.not_eq_true',
    List.isEmpty_eq_false_iff, List.all_eq_true, decide_eq_true_eq, beq_iff_eq, bne_iff_ne] at h
  obtain ⟨⟨⟨⟨hne, -⟩, hdigits⟩, hvalue⟩, hzero⟩ := h
  exact ⟨Decimal.value cs, hvalue, (Decimal.digits_value hne hdigits hzero).symm⟩

theorem isIPv4_of_isIPv4 {cs : List Char} (h : isIPv4 cs = true) : IsIPv4 cs := by
  simp only [isIPv4, Bool.and_eq_true, beq_iff_eq, List.all_eq_true] at h
  obtain ⟨hlength, hall⟩ := h
  match hpieces : Text.pieces '.' cs with
  | [p, q, r, t] =>
      rw [hpieces] at hall
      simp only [List.forall_mem_cons] at hall
      obtain ⟨hp, hq, hr, ht, -⟩ := hall
      obtain ⟨a, ha, rfl⟩ := isOctet_spec hp
      obtain ⟨b, hb, rfl⟩ := isOctet_spec hq
      obtain ⟨c, hc, rfl⟩ := isOctet_spec hr
      obtain ⟨d, hd, rfl⟩ := isOctet_spec ht
      obtain ⟨behindA, rfl, hbehindA⟩ := Text.exists_of_pieces_eq_cons_cons hpieces
      obtain ⟨behindB, rfl, hbehindB⟩ := Text.exists_of_pieces_eq_cons_cons hbehindA
      obtain ⟨behindC, rfl, hbehindC⟩ := Text.exists_of_pieces_eq_cons_cons hbehindB
      obtain rfl := Text.eq_of_pieces_eq_singleton hbehindC
      exact ⟨a, b, c, d, ha, hb, hc, hd, rfl⟩
  | [] | [_] | [_, _] | [_, _, _] | _ :: _ :: _ :: _ :: _ :: _ =>
      rw [hpieces] at hlength
      simp at hlength

/-- Groups before a part are groups of a run that the part ends. -/
theorem isRun_of_pieces {allowIPv4 : Bool} {cs last : List Char} {before : List (List Char)}
    {k : Nat} (h : Text.pieces ':' cs = before ++ [last]) (hbefore : ∀ g ∈ before, IsGroup g)
    (hlast : IsRun allowIPv4 last k) : IsRun allowIPv4 cs (before.length + k) := by
  induction before generalizing cs with
  | nil =>
      obtain rfl := Text.eq_of_pieces_eq_singleton h
      rw [List.length_nil, Nat.zero_add]
      exact hlast
  | cons g before ih =>
      obtain ⟨hg, hbefore⟩ := List.forall_mem_cons.1 hbefore
      obtain ⟨next, rest, hrest⟩ := List.exists_cons_of_ne_nil (l := before ++ [last]) (by simp)
      rw [List.cons_append, hrest] at h
      obtain ⟨tail, rfl, htail⟩ := Text.exists_of_pieces_eq_cons_cons h
      rw [List.length_cons, Nat.add_right_comm]
      exact .cons hg (ih (htail.trans hrest.symm) hbefore)

theorem isRunOrNil_of_groupCount? {allowIPv4 : Bool} {cs : List Char} {n : Nat}
    (h : groupCount? allowIPv4 cs = some n) : IsRunOrNil allowIPv4 cs n := by
  rw [groupCount?] at h
  split at h
  · rename_i hnil
    exact .inl ⟨List.isEmpty_iff.1 hnil, (Option.some.inj h).symm⟩
  · refine .inr ?_
    split at h
    · rename_i last before hreverse
      have hpieces : Text.pieces ':' cs = before.reverse ++ [last] := by
        rw [← List.reverse_reverse (Text.pieces ':' cs), hreverse, List.reverse_cons]
      split at h
      · cases h
      · rename_i hall
        have hbefore : ∀ g ∈ before.reverse, IsGroup g := by
          intro g hg
          have hbool : before.all isGroup = true := by simpa using hall
          exact isGroup_iff.1 (List.all_eq_true.1 hbool g (List.mem_reverse.1 hg))
        rw [← List.length_reverse] at h
        split at h
        · rename_i hgroup
          obtain rfl := Option.some.inj h
          exact isRun_of_pieces hpieces hbefore (.group (isGroup_iff.1 hgroup))
        · split at h
          · rename_i hipv4
            obtain ⟨hallow, hipv4⟩ := Bool.and_eq_true_iff.1 hipv4
            obtain rfl := Option.some.inj h
            exact isRun_of_pieces hpieces hbefore (.ipv4 hallow (isIPv4_of_isIPv4 hipv4))
          · cases h
    · cases h

theorem isIPv6_of_isIPv6 {cs : List Char} (h : isIPv6 cs = true) : IsIPv6 cs := by
  rw [isIPv6] at h
  split at h
  · have hcount := isRunOrNil_of_groupCount? (beq_iff_eq.1 h)
    rcases hcount with ⟨-, h8⟩ | hrun
    · cases h8
    · exact .full hrun
  · rename_i head tail hcut
    rw [Text.eq_of_cutAtPair? hcut]
    split at h
    · rename_i m n hm hn
      exact .short (isRunOrNil_of_groupCount? hm) (isRunOrNil_of_groupCount? hn)
        (of_decide_eq_true h)
    · cases h

/-! ## The authority -/

/-- A name in the characters of a host, or an IPv6 address in brackets, which may have a zone. -/
inductive IsHost : List Char → Prop
  | name {host : List Char} : host ≠ [] → (∀ c ∈ host, isHostChar c = true) → IsHost host
  | ipv6 {address : List Char} : IsIPv6 address → IsHost ('[' :: (address ++ [']']))
  /-- A percent sign in a URL is written `%25`, so a zone that is only this is empty. -/
  | zoned {address zone : List Char} : IsIPv6 address → zone ≠ [] → zone ≠ ['2', '5'] → ']' ∉ zone →
      IsHost ('[' :: (address ++ '%' :: zone ++ [']']))

/-- The text of a port, with its colon. -/
def portText (port : Option (List Char)) : List Char := port.elim [] (':' :: ·)

/--
What comes before the last `@` of an authority, the host, and the port behind the colon of the host.
-/
structure IsAuthority (authority user host : List Char) (port : Option (List Char)) : Prop where
  text : authority = user ++ (host ++ portText port)
  user : user = [] ∨ user.getLast? = some '@'
  noAt : '@' ∉ host ++ portText port
  isHost : IsHost host

theorem isHost_of_checkIPv6 {inner : List Char} (h : checkIPv6 inner = .ok ())
    (hinner : ']' ∉ inner) :
    IsHost ('[' :: (inner ++ [']'])) := by
  rw [checkIPv6] at h
  split at h
  rename_i address zone hcut
  split at h
  · cases h
  split at h
  · cases h
  split at h
  · cases h
  rename_i hzone
  split at h
  · rename_i hvalid
    have haddress := isIPv6_of_isIPv6 hvalid
    split at hcut
    · rename_i a z hpercent
      cases hcut
      obtain ⟨rfl, -⟩ := Text.cutAt?_eq_some_iff.1 hpercent
      have hz : z ≠ [] ∧ z ≠ ['2', '5'] := by
        refine ⟨?_, ?_⟩ <;> rintro rfl <;> exact hzone rfl
      exact .zoned haddress hz.1 hz.2 fun hmem =>
        hinner (List.mem_append_right _ (List.mem_cons_of_mem _ hmem))
    · cases hcut
      exact .ipv6 haddress
  · cases h

theorem bracketedHost_eq_ok {rest host : List Char} {port : Option (List Char)}
    (h : bracketedHost rest = .ok (host, port)) :
    ∃ inner, rest = inner ++ ']' :: portText port ∧ ']' ∉ inner ∧ checkIPv6 inner = .ok () ∧
      host = '[' :: (inner ++ [']']) := by
  rw [bracketedHost] at h
  split at h
  · rename_i inner after hcut
    obtain ⟨rfl, hinner⟩ := Text.cutAt?_eq_some_iff.1 hcut
    obtain ⟨u, hcheck, h⟩ := exists_of_bind_eq_ok h
    split at h
    · cases h
      exact ⟨inner, rfl, hinner, hcheck, rfl⟩
    · cases h
      exact ⟨inner, rfl, hinner, hcheck, rfl⟩
    · cases h
  · cases h

/-- A host ends at its bracket or else at the first colon. -/
theorem hostAndPort_eq_ok {cs host : List Char} {port : Option (List Char)}
    (h : hostAndPort cs = .ok (host, port)) : cs = host ++ portText port ∧
      (host.head? = some '[' ∧ IsHost host ∨ host.head? ≠ some '[' ∧ ':' ∉ host) := by
  unfold hostAndPort at h
  split at h
  · obtain ⟨inner, rfl, hinner, hcheck, rfl⟩ := bracketedHost_eq_ok h
    exact ⟨by simp, .inl ⟨rfl, isHost_of_checkIPv6 hcheck hinner⟩⟩
  · rename_i hbracket
    have hhead : ∀ front rest, cs = front ++ rest → front.head? ≠ some '[' := by
      rintro front rest rfl hfront
      obtain ⟨tail, rfl⟩ := List.head?_eq_some_iff.1 hfront
      exact hbracket _ rfl
    split at h
    · rename_i name p hcut
      cases h
      obtain ⟨hcs, hcolon⟩ := Text.cutAt?_eq_some_iff.1 hcut
      exact ⟨hcs, .inr ⟨hhead _ _ hcs, hcolon⟩⟩
    · rename_i hnone
      cases h
      exact ⟨(List.append_nil _).symm,
        .inr ⟨hhead _ [] (List.append_nil _).symm, Text.cutAt?_eq_none_iff.1 hnone⟩⟩

theorem hostOf_eq_ok {authority : List Char} {text : String} (h : hostOf authority = .ok text) :
    ∃ user host port, IsAuthority authority user host port ∧ text = String.ofList host ∧
      hostAndPort (Text.behindLast '@' authority) = .ok (host, port) ∧
      ∀ p ∈ port, isPort p = true := by
  rw [hostOf] at h
  obtain ⟨⟨host, port⟩, hparts, h⟩ := exists_of_bind_eq_ok h
  dsimp only at h
  obtain ⟨user, hauthority, huser, hat⟩ := Text.exists_front_behindLast '@' authority
  obtain ⟨hbehind, hhost⟩ := hostAndPort_eq_ok hparts
  split at h
  · cases h
  rename_i hne
  split at h
  · cases h
  rename_i hchars
  have hisHost : IsHost host := by
    rcases hhost with ⟨-, hbracketed⟩ | ⟨hhead, -⟩
    · exact hbracketed
    · have hall : host.all isHostChar = true := by
        simpa [bne_iff_ne.2 hhead] using hchars
      exact .name (by simpa using hne) (List.all_eq_true.1 hall)
  rw [hbehind] at hauthority hat
  refine ⟨user, host, port, ⟨hauthority, huser, hat, hisHost⟩, ?_⟩
  split at h
  · split at h
    · rename_i p hport
      refine ⟨(Except.ok.inj h).symm, hparts, fun q hq => ?_⟩
      rw [← Option.mem_some.1 hq]
      exact hport
    · cases h
  · exact ⟨(Except.ok.inj h).symm, hparts, fun _ hq => nomatch hq⟩

/-! ## The whole -/

/-- Two hexadecimal digits stand behind every percent sign. -/
def EncodesPercents (cs : List Char) : Prop :=
  ∀ front behind, cs = front ++ '%' :: behind →
    ∃ a b rest, behind = a :: b :: rest ∧ Text.isHex a = true ∧ Text.isHex b = true

/-- A letter of ASCII, and behind it letters, digits, `+`, `.` and `-`. -/
def IsScheme (cs : List Char) : Prop :=
  ∃ c rest, cs = c :: rest ∧ c.isAlpha = true ∧
    ∀ d ∈ rest, d.isAlphanum = true ∨ d = '+' ∨ d = '.' ∨ d = '-'

/-- A path goes up to the first query or fragment. -/
structure IsPath (path tail : List Char) : Prop where
  path : ∀ c ∈ path, c ≠ '?' ∧ c ≠ '#'
  tail : ∀ c ∈ tail.head?, c = '?' ∨ c = '#'

/--
The authority and the path in the text behind the colon of the scheme. Behind two slashes there is
an authority, which goes up to the first slash, query or fragment.
-/
inductive IsCut : List Char → Option (List Char) → List Char → Prop
  | authority {authority path tail : List Char} : (∀ c ∈ authority, c ≠ '/' ∧ c ≠ '?' ∧ c ≠ '#') →
      (∀ c ∈ path.head?, c = '/') → IsPath path tail →
      IsCut ('/' :: '/' :: (authority ++ (path ++ tail))) (some authority) path
  | path {path tail : List Char} : ¬['/', '/'] <+: path ++ tail → IsPath path tail →
      IsCut (path ++ tail) none path

theorem encodesPercents_of_percentsAreEncoded {cs : List Char} (h : percentsAreEncoded cs = true) :
    EncodesPercents cs := by
  induction cs using percentsAreEncoded.induct with
  | case1 =>
      intro front behind heq
      cases front <;> cases heq
  | case2 cs ih =>
      rw [percentsAreEncoded, Bool.and_eq_true, Bool.and_eq_true, beq_iff_eq] at h
      obtain ⟨⟨htwo, hhex⟩, hrest⟩ := h
      intro front behind heq
      cases front with
      | nil =>
          obtain rfl := (List.cons.inj heq).2
          match cs, htwo, hhex with
          | a :: b :: rest, _, hhex =>
              obtain ⟨ha, hb⟩ := Bool.and_eq_true_iff.1 hhex
              exact ⟨a, b, rest, rfl, ha, by simpa using hb⟩
      | cons c front => exact ih hrest front behind (List.cons.inj heq).2
  | case3 c cs hc ih =>
      rw [percentsAreEncoded] at h
      · intro front behind heq
        cases front with
        | nil => exact absurd (List.cons.inj heq).1 hc
        | cons d front => exact ih h front behind (List.cons.inj heq).2
      · exact hc

theorem schemeOf?_eq_some {cs scheme rest : List Char} (h : schemeOf? cs = some (scheme, rest)) :
    cs = scheme ++ ':' :: rest ∧ IsScheme scheme := by
  rw [schemeOf?] at h
  split at h
  · rename_i behind hdrop
    dsimp only at h
    split at h
    · rename_i halpha
      cases h
      refine ⟨?_, ?_⟩
      · rw [← hdrop, List.takeWhile_append_dropWhile]
      · have hall : ∀ d ∈ cs.takeWhile isSchemeChar, isSchemeChar d = true :=
          List.all_eq_true.1 List.all_takeWhile
        cases hscheme : cs.takeWhile isSchemeChar with
        | nil =>
            rw [hscheme] at halpha
            cases halpha
        | cons c tail =>
            rw [hscheme] at halpha hall
            refine ⟨c, tail, rfl, halpha, fun d hd => ?_⟩
            have hd := hall d (List.mem_cons_of_mem _ hd)
            simpa [isSchemeChar, Text.isAlnum, or_assoc] using hd
    · cases h
  · cases h

theorem isPath_pathOf (cs : List Char) :
    ∃ tail, cs = pathOf cs ++ tail ∧ IsPath (pathOf cs) tail := by
  refine ⟨cs.dropWhile fun c => c != '?' && c != '#', List.takeWhile_append_dropWhile.symm, ?_, ?_⟩
  · intro c hc
    have hall := List.all_eq_true.1 List.all_takeWhile c hc
    simpa using hall
  · intro c hc
    have hstop : (c != '?' && c != '#') = false :=
      Text.head?_dropWhile (p := fun c => c != '?' && c != '#') (Option.mem_def.1 hc)
    exact (Bool.and_eq_false_iff.1 hstop).imp bne_eq_false_iff_eq.1 bne_eq_false_iff_eq.1

/-- What comes behind two slashes up to a character that starts a path is an authority. -/
theorem isCut_slashes (rest : List Char) :
    IsCut ('/' :: '/' :: rest) (some (rest.takeWhile (!startsPath ·)))
      (pathOf (rest.dropWhile (!startsPath ·))) := by
  obtain ⟨tail, htail, hpath⟩ := isPath_pathOf (rest.dropWhile (!startsPath ·))
  have hcut : IsCut ('/' :: '/' :: (rest.takeWhile (!startsPath ·) ++
      (pathOf (rest.dropWhile (!startsPath ·)) ++ tail))) (some (rest.takeWhile (!startsPath ·)))
      (pathOf (rest.dropWhile (!startsPath ·))) := by
    refine .authority (fun c hc => ?_) (fun c hc => ?_) hpath
    · have hall := List.all_eq_true.1 List.all_takeWhile c hc
      simpa [startsPath, and_assoc] using hall
    · have hstart : (!startsPath c) = false := by
        have hhead := Text.head?_of_isPrefix (List.takeWhile_prefix _) (Option.mem_def.1 hc)
        exact Text.head?_dropWhile (p := fun c => !startsPath c) hhead
      have hc := hpath.path c (List.mem_of_head? (Option.mem_def.1 hc))
      simpa [startsPath, hc] using hstart
  rwa [← htail, List.takeWhile_append_dropWhile] at hcut

/-- Every text has an authority and a path, and these are what is read. -/
theorem exists_isCut (rest : List Char) : ∃ authority, IsCut rest authority
    (pathOf (authorityOf rest).2) ∧ (authorityOf rest).1 = authority.getD [] := by
  unfold authorityOf
  split
  · rename_i behind
    exact ⟨_, isCut_slashes behind, rfl⟩
  · rename_i hslashes
    obtain ⟨tail, htail, hpath⟩ := isPath_pathOf rest
    have hcut : IsCut (pathOf rest ++ tail) none (pathOf rest) := by
      refine .path ?_ hpath
      rw [← htail]
      rintro ⟨behind, rfl⟩
      exact hslashes behind rfl
    rw [← htail] at hcut
    exact ⟨none, hcut, rfl⟩

theorem authorityOf_of_isCut {rest authority path : List Char}
    (h : IsCut rest (some authority) path) :
    (authorityOf rest).1 = authority := by
  cases h with
  | @authority _ _ tail hauthority hhead hpath =>
      have hall : ∀ c ∈ authority, (!startsPath c) = true := by
        intro c hc
        simpa [startsPath, and_assoc] using hauthority c hc
      have hnone : (path ++ tail).takeWhile (!startsPath ·) = [] := by
        cases path with
        | nil =>
            cases tail with
            | nil => rfl
            | cons c tail =>
                rcases hpath.tail c rfl with rfl | rfl <;>
                  exact List.takeWhile_cons_of_neg (by decide)
        | cons c path =>
            rw [hhead c rfl]
            exact List.takeWhile_cons_of_neg (by decide)
      show (authority ++ (path ++ tail)).takeWhile (!startsPath ·) = authority
      rw [List.takeWhile_append_of_pos hall, hnone, List.append_nil]

/--
The host that the authority holds. Where there is no authority or an empty one, there is no host but
a path.
-/
inductive HasHost : Option (List Char) → List Char → Option String → Prop
  | host {authority user host path : List Char} {port : Option (List Char)} : authority ≠ [] →
      IsAuthority authority user host port →
      HasHost (some authority) path (some (String.ofList host))
  | none {authority : Option (List Char)} {path : List Char} : authority.getD [] = [] → path ≠ [] →
      HasHost authority path none

/-- What is read of a text is its scheme, and the host of its authority unless that is empty. -/
theorem ofText_eq_ok {s : String} {url : Url} (h : ofText s = .ok url) :
    (∀ c ∈ s.toList, Text.isBlank c = false ∧ Text.isControl c = false) ∧
    percentsAreEncoded s.toList = true ∧
    ∃ rest, schemeOf? s.toList = some (url.scheme.toList, rest) ∧
      ((authorityOf rest).1 = [] ∧ url.host = none ∧ url.lowerScheme ∉ hostSchemes ∧
          pathOf (authorityOf rest).2 ≠ [] ∨
        (authorityOf rest).1 ≠ [] ∧
          ∃ host, hostOf (authorityOf rest).1 = .ok host ∧ url.host = some host) := by
  rw [ofText] at h
  dsimp only at h
  split at h
  · cases h
  rename_i hvisible
  dsimp only [bind, Except.bind, pure, Except.pure] at h
  split at h
  · cases h
  rename_i hpercents
  split at h
  · rename_i scheme rest hscheme
    have hvisible : ∀ c ∈ s.toList, Text.isBlank c = false ∧ Text.isControl c = false := by
      intro c hc
      have hc' := mt (fun hbad => List.any_eq_true.2 ⟨c, hc, hbad⟩) hvisible
      simpa using hc'
    refine ⟨hvisible, by simpa using hpercents, rest, ?_⟩
    split at h
    · rename_i hnone
      split at h
      · cases h
      rename_i hscheme'
      split at h
      · cases h
      rename_i hpath
      obtain rfl := Except.ok.inj h
      rw [String.toList_ofList]
      refine ⟨hscheme, .inl ⟨List.isEmpty_iff.1 hnone, rfl, ?_, ?_⟩⟩
      · simpa using hscheme'
      · simpa using hpath
    · rename_i hsome
      cases hhost : hostOf (authorityOf rest).1 with
      | error e =>
          rw [hhost] at h
          cases h
      | ok host =>
          rw [hhost] at h
          obtain rfl := Except.ok.inj h
          rw [String.toList_ofList]
          exact ⟨hscheme, .inr ⟨mt List.isEmpty_iff.2 hsome, host, rfl, rfl⟩⟩
  · cases h

/-- So many bytes of a text are there, and they are those of another one. -/
def StartsWithBytes (n : Nat) (cs front : List Char) : Prop :=
  n ≤ (Text.bytes (String.ofList cs)).length ∧
    (Text.bytes (String.ofList cs)).take n = Text.bytes (String.ofList front)

/-- A host in brackets takes up the bytes between the brackets and two more. -/
theorem startsWithBytes_of_bracketedHost {rest host : List Char} {port : Option (List Char)}
    (h : bracketedHost rest = .ok (host, port)) : ∃ inner, host = '[' :: (inner ++ [']']) ∧
      StartsWithBytes ((Text.bytes (String.ofList inner)).length + 2) ('[' :: rest) host := by
  obtain ⟨inner, rfl, -, -, rfl⟩ := bracketedHost_eq_ok h
  have hbytes : Text.bytes (String.ofList ('[' :: (inner ++ ']' :: portText port))) =
      Text.bytes (String.ofList ('[' :: (inner ++ [']']))) ++
        Text.bytes (String.ofList (portText port)) := by
    simp [Text.bytes_eq]
  have hlength : (Text.bytes (String.ofList ('[' :: (inner ++ [']'])))).length =
      (Text.bytes (String.ofList inner)).length + 2 := by
    have hopen : (String.utf8EncodeChar '[').length = 1 := by decide
    have hclose : (String.utf8EncodeChar ']').length = 1 := by decide
    simp only [Text.bytes_eq, String.toList_ofList, List.flatMap_cons, List.flatMap_append,
      List.flatMap_nil, List.length_append, hopen, hclose, List.length_nil]
    omega
  refine ⟨inner, rfl, ?_, ?_⟩
  · rw [hbytes, List.length_append, hlength]
    exact Nat.le_add_right _ _
  · rw [hbytes, ← hlength, List.take_left]

/--
A text that is read as a URL has no blanks and no control characters, and its percent signs are
those of encoded bytes. It is the scheme, a colon and the rest, and the rest has the host in its
authority or else a path. Schemes that are meaningless without a host have one. A host in brackets
is cut out at the end of a character.
-/
theorem parts_of_ofText {s : String} {url : Url} (h : ofText s = .ok url) :
    (∀ c ∈ s.toList, Text.isBlank c = false ∧ Text.isControl c = false) ∧
    EncodesPercents s.toList ∧
    IsScheme url.scheme.toList ∧
    (∃ rest authority path, s.toList = url.scheme.toList ++ ':' :: rest ∧
      IsCut rest authority path ∧
      HasHost authority path url.host) ∧
    (url.lowerScheme ∈ hostSchemes → url.host.isSome = true) ∧
    (∀ rest host port, bracketedHost rest = .ok (host, port) →
      ∃ inner, host = '[' :: (inner ++ [']']) ∧
        StartsWithBytes ((Text.bytes (String.ofList inner)).length + 2) ('[' :: rest) host) := by
  obtain ⟨hvisible, hpercents, rest, hscheme, hhost⟩ := ofText_eq_ok h
  obtain ⟨hs, hisScheme⟩ := schemeOf?_eq_some hscheme
  obtain ⟨authority, hcut, hauthority⟩ := exists_isCut rest
  refine ⟨hvisible, encodesPercents_of_percentsAreEncoded hpercents, hisScheme,
    ⟨rest, authority, _, hs, hcut, ?_⟩, ?_, fun _ _ _ => startsWithBytes_of_bracketedHost⟩
  · rcases hhost with ⟨hempty, hnone, -, hpath⟩ | ⟨hne, host, hhost, hsome⟩
    · rw [hnone]
      exact .none (hauthority.symm.trans hempty) hpath
    · obtain ⟨user, name, port, hisAuthority, rfl, -⟩ := hostOf_eq_ok hhost
      rw [hauthority] at hne hisAuthority
      cases authority with
      | none => exact absurd rfl hne
      | some authority =>
          rw [hsome]
          exact .host hne hisAuthority
  · intro hmem
    rcases hhost with ⟨-, -, hnot, -⟩ | ⟨-, host, -, hsome⟩
    · exact absurd hmem hnot
    · rw [hsome]
      rfl

theorem parts_of_ofText_zoned :
    ofText "HTTPS://user:pw@[fe80::1%25eth0]:443/a%20b?q=1" =
        .ok ⟨"HTTPS", some "[fe80::1%25eth0]"⟩ ∧
      IsScheme "HTTPS".toList ∧
      ∃ rest authority path, "HTTPS://user:pw@[fe80::1%25eth0]:443/a%20b?q=1".toList =
          "HTTPS".toList ++ ':' :: rest ∧
        IsCut rest authority path ∧ HasHost authority path (some "[fe80::1%25eth0]") := by
  have hread : ofText "HTTPS://user:pw@[fe80::1%25eth0]:443/a%20b?q=1" =
      .ok ⟨"HTTPS", some "[fe80::1%25eth0]"⟩ := rfl
  obtain ⟨-, -, hscheme, hparts, -⟩ := parts_of_ofText hread
  exact ⟨hread, hscheme, hparts⟩

/-! ## Ports -/

/-- Digits of a number below 65536, or nothing. -/
structure IsDecimalPort (port : List Char) : Prop where
  digits : ∀ c ∈ port, Decimal.isDigit c = true
  value_le : Decimal.value port ≤ 65535

instance (port : List Char) : Decidable (IsDecimalPort port) :=
  decidable_of_iff ((∀ c ∈ port, Decimal.isDigit c = true) ∧ Decimal.value port ≤ 65535)
    ⟨fun h => ⟨h.1, h.2⟩, fun h => ⟨h.digits, h.value_le⟩⟩

theorem readNat?_any_lt {ds : List Char} (h : (Decimal.readNat? ds).any (· < 65536) = true) :
    ds ≠ [] ∧ IsDecimalPort ds := by
  rw [Decimal.readNat?] at h
  split at h
  · cases h
  · rename_i hdigits
    simp only [Bool.or_eq_true, not_or, Bool.not_eq_true', List.isEmpty_iff, Bool.not_eq_false,
      List.all_eq_true] at hdigits
    exact ⟨hdigits.1, hdigits.2, Nat.le_of_lt_succ (of_decide_eq_true h)⟩

/-- A plus sign may stand before the digits of a port. -/
theorem exists_digits_of_isPort {port : List Char} (h : isPort port = true) : ∃ digits,
    IsDecimalPort digits ∧ (port = digits ∨ port = '+' :: digits ∧ digits ≠ []) := by
  unfold isPort at h
  dsimp only at h
  split at h
  · rename_i digits
    obtain ⟨hne, hdigits⟩ := readNat?_any_lt h
    exact ⟨digits, hdigits, .inr ⟨rfl, hne⟩⟩
  · rcases Bool.or_eq_true_iff.1 h with hnil | hread
    · rw [List.isEmpty_iff.1 hnil]
      exact ⟨[], by decide, .inl rfl⟩
    · exact ⟨port, (readNat?_any_lt hread).2, .inl rfl⟩

/-- No bracket stands in a run of groups. -/
theorem IsRun.not_mem {allowIPv4 : Bool} {cs : List Char} {n : Nat} (h : IsRun allowIPv4 cs n) :
    ']' ∉ cs := by
  have hgroup : ∀ {g}, IsGroup g → ']' ∉ g := fun hg hmem => absurd (hg.2.2 _ hmem) (by decide)
  induction h with
  | group hg => exact hgroup hg
  | ipv4 _ hq =>
      obtain ⟨a, b, c, d, -, -, -, -, rfl⟩ := hq
      have hdigits : ∀ n, ']' ∉ Decimal.digits n := fun n hmem =>
        absurd (Decimal.isDigit_of_mem_digits hmem) (by decide)
      simp [hdigits]
  | cons hg _ ih => simp [hgroup hg, ih]

theorem IsIPv6.not_mem {cs : List Char} (h : IsIPv6 cs) : ']' ∉ cs := by
  have hpart : ∀ {allowIPv4 part n}, IsRunOrNil allowIPv4 part n → ']' ∉ part := by
    rintro allowIPv4 part n (⟨rfl, -⟩ | hrun)
    · exact List.not_mem_nil
    · exact hrun.not_mem
  cases h with
  | full hrun => exact hrun.not_mem
  | short hhead htail _ => simp [hpart hhead, hpart htail]

theorem IsHost.ne_nil {host : List Char} (h : IsHost host) : host ≠ [] := by
  cases h with
  | name hne _ => exact hne
  | ipv6 _ => exact List.cons_ne_nil _ _
  | zoned _ _ _ _ => exact List.cons_ne_nil _ _

/-- A host is a name without colons, or ends at the first closing bracket. -/
theorem IsHost.cases_end {host : List Char} (h : IsHost host) :
    host.head? ≠ some '[' ∧ ':' ∉ host ∨ ∃ inner, ']' ∉ inner ∧ host = '[' :: (inner ++ [']']) := by
  cases h with
  | name hne hchars =>
      refine .inl ⟨fun hhead => ?_, fun hmem => ?_⟩
      · exact absurd (hchars _ (List.mem_of_head? hhead)) (by decide)
      · exact absurd (hchars _ hmem) (by decide)
  | ipv6 haddress => exact .inr ⟨_, haddress.not_mem, rfl⟩
  | zoned haddress _ _ hzone => exact .inr ⟨_, by simp [haddress.not_mem, hzone], rfl⟩

/-- A host without colons and its port are told from their text. -/
theorem append_portText_inj {a b : List Char} {p q : Option (List Char)} (ha : ':' ∉ a)
    (hb : ':' ∉ b) (h : a ++ portText p = b ++ portText q) : a = b ∧ p = q := by
  have hmem : ∀ {c d : List Char} {r : List Char}, ':' ∉ d → c ++ ':' :: r ≠ d ++ [] := by
    rintro c d r hd heq
    rw [List.append_nil] at heq
    exact hd (heq ▸ List.mem_append_right _ (List.mem_cons_self ..))
  cases p with
  | none =>
      cases q with
      | none => exact ⟨List.append_cancel_right h, rfl⟩
      | some y => exact absurd h.symm (hmem ha)
  | some x =>
      cases q with
      | none => exact absurd h (hmem hb)
      | some y =>
          obtain ⟨rfl, rfl⟩ := Text.append_cons_inj ha hb h
          exact ⟨rfl, rfl⟩

theorem portText_inj {p q : Option (List Char)} (h : portText p = portText q) : p = q :=
  (append_portText_inj (a := []) (b := []) List.not_mem_nil List.not_mem_nil h).2

/-- What is read of an authority is its host and its port. -/
theorem hostAndPort_of_isAuthority {authority user host read : List Char}
    {port after : Option (List Char)} (h : IsAuthority authority user host port)
    (hread : hostAndPort (Text.behindLast '@' authority) = .ok (read, after)) :
    read = host ∧ after = port := by
  rw [h.text, Text.behindLast_append h.user h.noAt] at hread
  rcases h.isHost.cases_end with ⟨hhead, hcolon⟩ | ⟨inner, hinner, rfl⟩
  · obtain ⟨heq, ⟨hbracket, -⟩ | ⟨-, hread⟩⟩ := hostAndPort_eq_ok hread
    · obtain ⟨tail, rfl⟩ := List.head?_eq_some_iff.1 hbracket
      cases host with
      | nil => exact absurd rfl h.isHost.ne_nil
      | cons c host => exact absurd (congrArg some (List.cons.inj heq).1) hhead
    · obtain ⟨rfl, rfl⟩ := append_portText_inj hcolon hread heq
      exact ⟨rfl, rfl⟩
  · have hbracketed : bracketedHost (inner ++ [']'] ++ portText port) = .ok (read, after) := hread
    obtain ⟨inner', heq, hinner', -, rfl⟩ := bracketedHost_eq_ok hbracketed
    rw [List.append_assoc] at heq
    obtain ⟨rfl, hport⟩ := Text.append_cons_inj hinner hinner' heq
    exact ⟨rfl, (portText_inj hport).symm⟩

/--
The text behind the colon of a host is empty or has the digits of a number below 65536, and one plus
sign may stand before them. So it is a decimal port exactly if no plus sign does.
-/
theorem port_of_ofText {s : String} {url : Url} (h : ofText s = .ok url)
    {rest authority path user host port : List Char}
    (hs : s.toList = url.scheme.toList ++ ':' :: rest)
    (hcut : IsCut rest (some authority) path)
    (hauthority : IsAuthority authority user host (some port)) :
    url.host = some (String.ofList host) ∧
    (∃ digits, IsDecimalPort digits ∧ (port = digits ∨ port = '+' :: digits ∧ digits ≠ [])) ∧
    (IsDecimalPort port ↔ port.head? ≠ some '+') := by
  obtain ⟨-, -, rest', hscheme, hhost⟩ := ofText_eq_ok h
  have hsame := (schemeOf?_eq_some hscheme).1
  rw [hs] at hsame
  obtain rfl := (List.cons.inj (List.append_cancel_left hsame)).2
  rw [authorityOf_of_isCut hcut] at hhost
  rcases hhost with ⟨rfl, -⟩ | ⟨-, text, htext, hsome⟩
  · have hnil := hauthority.text.symm
    rw [List.append_eq_nil_iff, List.append_eq_nil_iff] at hnil
    exact absurd hnil.2.1 hauthority.isHost.ne_nil
  · obtain ⟨_, read, after, -, rfl, hread, hport⟩ := hostOf_eq_ok htext
    obtain ⟨rfl, rfl⟩ := hostAndPort_of_isAuthority hauthority hread
    obtain ⟨digits, hdigits, hwritten⟩ := exists_digits_of_isPort (hport port rfl)
    refine ⟨hsome, ⟨digits, hdigits, hwritten⟩, fun hdecimal hplus => ?_, fun hplus => ?_⟩
    · exact absurd (hdecimal.digits _ (List.mem_of_head? hplus)) (by decide)
    · rcases hwritten with rfl | ⟨rfl, -⟩
      · exact hdigits
      · exact absurd rfl hplus

theorem port_of_ofText_bracketed :
    ofText "https://me@[::1]:00443/" = .ok ⟨"https", some "[::1]"⟩ ∧
      IsCut "//me@[::1]:00443/".toList (some "me@[::1]:00443".toList) "/".toList ∧
      IsAuthority "me@[::1]:00443".toList "me@".toList "[::1]".toList (some "00443".toList) ∧
      IsDecimalPort "00443".toList := by
  have hread : ofText "https://me@[::1]:00443/" = .ok ⟨"https", some "[::1]"⟩ := rfl
  have hcut : IsCut "//me@[::1]:00443/".toList (some "me@[::1]:00443".toList) "/".toList :=
    isCut_slashes "me@[::1]:00443/".toList
  have haddress : IsIPv6 "::1".toList := isIPv6_of_isIPv6 rfl
  have hauthority : IsAuthority "me@[::1]:00443".toList "me@".toList "[::1]".toList
      (some "00443".toList) := ⟨rfl, .inr rfl, by decide, .ipv6 haddress⟩
  exact ⟨hread, hcut, hauthority, (port_of_ofText hread rfl hcut hauthority).2.2.2 (by decide)⟩

/-- A plus sign before the digits of a port is read over. -/
theorem port_of_ofText_signed :
    ofText "https://example.com:+80" = .ok ⟨"https", some "example.com"⟩ ∧
      IsCut "//example.com:+80".toList (some "example.com:+80".toList) [] ∧
      IsAuthority "example.com:+80".toList [] "example.com".toList (some "+80".toList) ∧
      ¬IsDecimalPort "+80".toList :=
  ⟨rfl, isCut_slashes "example.com:+80".toList,
    ⟨rfl, .inl rfl, by decide, .name (by decide) (by decide)⟩, by decide⟩

end WorkItems.Url
