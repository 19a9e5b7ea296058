import HttpState.Proofs.Jar.Provenance
import HttpState.Proofs.Text.Trim

/-!
# Reading the header of a request

The header of a request is pairs joined by semicolons, each of them a name and a value joined by an
equals sign. Nothing in it is quoted or escaped. A server still reads the names and the values that
were meant, since neither has a semicolon in it, a name has no equals sign, and there are no blanks
at the outer ends. A header that sets a cookie was cut into name and value at just these characters,
and no operation of a jar puts names and values together in another way.

## Key definitions

- `Header.pairs`: the names and values that a server reads
- `Cookie.HasPlainPair`: what a name and a value must not have in them

## Key results

- `Header.pairs_intercalate`: pairs that are joined are read back
- `Jar.hasPlainPair_run`: all cookies of a jar that nothing was loaded into have plain pairs
- `Jar.header?_pairs`: the header of such a jar is read as the cookies that it was made of
-/

namespace HttpState

open HttpState.Text

namespace Header

/-- The name and the value of a pair: blanks around it are dropped, and it is cut at its first
    equals sign. -/
def pair (piece : List Char) : String × String :=
  let s := trim piece
  (String.ofList (s.takeWhile (· != '=')), String.ofList ((s.dropWhile (· != '=')).drop 1))

/-- The names and values of a header, which semicolons separate. -/
def pairs (text : String) : List (String × String) := (text.toList.splitOn ';').map pair

end Header

/-! ## Pairs that can be read back -/

/-- A name and a value that can be told apart, and told apart from those of other cookies. -/
structure Cookie.HasPlainPair (c : Cookie) : Prop where
  name_ne_nil : c.name.toList ≠ []
  name : ∀ d ∈ c.name.toList, d ≠ ';' ∧ d ≠ '='
  name_head? : ∀ d ∈ c.name.toList.head?, isBlank d = false
  value : ∀ d ∈ c.value.toList, d ≠ ';'
  value_getLast? : ∀ d ∈ c.value.toList.getLast?, isBlank d = false

namespace Header

/-- A pair is written as the name, an equals sign and the value. -/
theorem toList_pair (c : Cookie) : c.pair.toList = c.name.toList ++ '=' :: c.value.toList := by
  simp [Cookie.pair]

/-- Blanks in front of a pair do not matter. -/
theorem pair_append {c : Cookie} (h : c.HasPlainPair) (before : List Char)
    (hbefore : ∀ d ∈ before, isBlank d = true) :
    pair (before ++ c.pair.toList) = (c.name, c.value) := by
  -- No blank stands at either end of the pair, so reading trims only what stood before it.
  have hhead : ∀ d ∈ c.pair.toList.head?, isBlank d = false := by
    rw [toList_pair, List.head?_append_of_ne_nil _ h.name_ne_nil]
    exact h.name_head?
  have hlast : ∀ d ∈ c.pair.toList.getLast?, isBlank d = false := by
    rw [toList_pair, List.getLast?_append, List.getLast?_cons]
    intro d hd
    cases hvalue : c.value.toList.getLast? with
    | none =>
      -- Without a value, the equals sign is the last character.
      obtain rfl : '=' = d := by simpa [hvalue] using hd
      decide
    | some e =>
      obtain rfl : e = d := by simpa [hvalue] using hd
      exact h.value_getLast? e hvalue
  have htrim : trim (before ++ c.pair.toList) = c.pair.toList := by
    have hne : c.pair.toList ≠ [] := by simp [toList_pair]
    have happend := trimWhile_append hbefore hne hhead hlast []
    rwa [List.append_nil, show dropEndWhile isBlank [] = [] from rfl, List.append_nil] at happend
  -- The name has no equals sign, so it is what stands before the first one.
  have hname : ∀ d ∈ c.name.toList, (d != '=') = true := by
    intro d hd
    simpa using (h.name d hd).2
  obtain ⟨htake, hdrop⟩ := List.span_append (m := '=' :: c.value.toList) hname (by simp)
  rw [← toList_pair] at htake hdrop
  simp only [pair, htrim, htake, hdrop, List.drop_one, List.tail_cons, String.ofList_toList]

/-- There is no semicolon in a pair. -/
theorem semicolon_not_mem {c : Cookie} (h : c.HasPlainPair) : ';' ∉ c.pair.toList := by
  rw [toList_pair, List.mem_append, List.mem_cons]
  rintro (hname | heq | hvalue)
  · exact (h.name _ hname).1 rfl
  · exact absurd heq (by decide)
  · exact h.value _ hvalue rfl

/-- Pairs that are joined are read back. -/
theorem pairs_intercalate {cs : List Cookie} (hne : cs ≠ []) (h : ∀ c ∈ cs, c.HasPlainPair) :
    pairs ("; ".intercalate (cs.map Cookie.pair)) = cs.map fun c => (c.name, c.value) := by
  obtain ⟨c, cs, rfl⟩ := List.exists_cons_of_ne_nil hne
  rw [List.forall_mem_cons] at h
  -- The blank behind a semicolon is taken for a part of the next pair.
  have htext : ("; ".intercalate ((c :: cs).map Cookie.pair)).toList =
      [';'].intercalate (c.pair.toList :: cs.map fun d => ' ' :: d.pair.toList) := by
    rw [String.toList_intercalate, List.map_map, List.map_cons,
      show "; ".toList = ';' :: [' '] by decide, List.intercalate_cons_cons_sep, List.map_map]
    rfl
  have hsplit : ∀ piece ∈ c.pair.toList :: cs.map fun d => ' ' :: d.pair.toList,
      ';' ∉ piece := by
    rw [List.forall_mem_cons]
    refine ⟨semicolon_not_mem h.1, ?_⟩
    intro piece hpiece
    obtain ⟨d, hd, rfl⟩ := List.mem_map.1 hpiece
    simpa using semicolon_not_mem (h.2 d hd)
  rw [pairs, htext, List.splitOn_intercalate ';' hsplit (by simp), List.map_cons, List.map_map,
    List.map_cons]
  congr 1
  · exact pair_append h.1 [] (by simp)
  · apply List.map_congr_left
    intro d hd
    have hblank : isBlank ' ' = true := by decide
    exact pair_append (h.2 d hd) [' '] (by simpa using hblank)

end Header

/-! ## Names and values that are received -/

namespace SetCookie

/-- An attribute changes neither name nor value. -/
theorem addAttribute_pair (s : SetCookie) (part : List Char) :
    (s.addAttribute part).name = s.name ∧ (s.addAttribute part).value = s.value := by
  unfold addAttribute
  dsimp only
  split <;> try split
  all_goals exact ⟨rfl, rfl⟩

/-- Nor do all attributes, one after another. -/
theorem foldl_addAttribute_pair (parts : List (List Char)) (s : SetCookie) :
    (parts.foldl addAttribute s).name = s.name ∧ (parts.foldl addAttribute s).value = s.value := by
  induction parts generalizing s with
  | nil => exact ⟨rfl, rfl⟩
  | cons part parts ih =>
    obtain ⟨hname, hvalue⟩ := ih (s.addAttribute part)
    obtain ⟨hname', hvalue'⟩ := s.addAttribute_pair part
    exact ⟨hname.trans hname', hvalue.trans hvalue'⟩

/-- Name and value are what stands before the first semicolon, cut at its first equals sign. -/
theorem exists_of_parse? {text : List Char} {s : SetCookie} (h : parse? text = some s) :
    ∃ name value, ';' ∉ name ∧ '=' ∉ name ∧ ';' ∉ value ∧ s.name = trim name ∧
      s.value = trim value ∧ s.name ≠ [] := by
  unfold parse? at h
  split at h
  · exact nomatch h
  · rename_i piece attributes hsplit
    -- The first piece has no semicolon, and name and value are parts of it.
    have hpiece : ';' ∉ piece := List.not_mem_of_mem_splitOn (hsplit ▸ List.mem_cons_self)
    split at h
    · rename_i name value hpair
      split at h
      · exact nomatch h
      · rename_i hne
        obtain ⟨hname, hvalue⟩ := foldl_addAttribute_pair attributes
          ⟨name, value, none, none, false, false, none, none, none⟩
        rw [Option.some.inj h] at hname hvalue
        unfold splitPair at hpair
        split at hpair
        · rename_i d rest hrest
          simp only [Prod.mk.injEq, Option.some.injEq] at hpair
          -- The name ends at the first equals sign, and the value is the rest.
          refine ⟨piece.takeWhile (· != '='), rest, ?_, ?_, ?_, ?_, ?_, ?_⟩
          · exact fun hmem => hpiece ((List.takeWhile_prefix _).subset hmem)
          · exact fun hmem => by simpa using List.all_eq_true.1 List.all_takeWhile _ hmem
          · intro hmem
            exact hpiece ((List.dropWhile_suffix _).subset (hrest ▸ List.mem_cons_of_mem d hmem))
          · exact hname.trans hpair.1.symm
          · exact hvalue.trans hpair.2.symm
          · rw [hname]
            simpa using hne
        · simp at hpair
    · exact nomatch h

end SetCookie

/-- A received cookie has a plain pair, whatever the header says. -/
theorem Cookie.hasPlainPair_of_receive? {a : Address} {header : String} {now : Int} {c : Cookie}
    (h : receive? a header now = some c) : c.HasPlainPair := by
  obtain ⟨s, _, hs, _, _, _, hc⟩ := exists_of_receive? h
  obtain ⟨name, value, hsemicolon, hequals, hvalue, hsname, hsvalue, hne⟩ :=
    SetCookie.exists_of_parse? hs
  have hcname : c.name.toList = trim name := by rw [hc, String.toList_ofList, hsname]
  have hcvalue : c.value.toList = trim value := by rw [hc, String.toList_ofList, hsvalue]
  constructor
  -- The name is not empty, as the header would not have been read.
  case name_ne_nil => rwa [hcname, ← hsname]
  -- No `;` or `=` is in the name: it stands in front of the first of them.
  case name =>
    intro d hd
    rw [hcname] at hd
    have hmem := mem_of_mem_trimWhile hd
    exact ⟨fun heq => hsemicolon (heq ▸ hmem), fun heq => hequals (heq ▸ hmem)⟩
  case name_head? =>
    intro d hd
    rw [hcname] at hd
    exact of_mem_head?_trimWhile hd
  -- No `;` is in the value, as it ends there.
  case value =>
    intro d hd heq
    rw [hcvalue] at hd
    exact hvalue (heq ▸ mem_of_mem_trimWhile hd)
  case value_getLast? =>
    intro d hd
    rw [hcvalue] at hd
    exact of_mem_getLast?_dropEndWhile hd

namespace Jar

/-- All cookies of a jar have plain pairs, if nothing was loaded into it. -/
theorem hasPlainPair_run (limits : Limits) {ops : List (Int × Operation)}
    (hload : ∀ o ∈ ops, ∀ cs, o.2 ≠ .load cs) :
    ∀ c ∈ ((empty limits).run ops).cookies, c.HasPlainPair := by
  apply forall_mem_run
  · -- When a cookie was created says nothing about its pair.
    intro c t hc
    exact ⟨hc.name_ne_nil, hc.name, hc.name_head?, hc.value, hc.value_getLast?⟩
  · simp [empty, cookies]
  · intro o ho
    have hnot := hload o ho
    cases hop : o.2 with
    | receive a header => exact fun c hc => Cookie.hasPlainPair_of_receive? hc
    | load cs => exact absurd hop (hnot cs)
    | removeAll => trivial
    | removeExpired => trivial
    | removeSession => trivial
    | setAccepts accepts => trivial

/-- Take any jar that was made empty and that nothing was loaded into, whatever texts it has taken
    and from where. Its header for an address, if it has one, is read as the names and values of the
    cookies that are sent there, in their order: there is one pair for each of these cookies, and a
    call has brought its name and its value. -/
theorem header?_pairs {perHost total : Nat} {ops : List (Int × Operation)}
    (hload : ∀ o ∈ ops, ∀ cs, o.2 ≠ .load cs) (a : Address) (now : Int) :
    let j := (empty (.of perHost total)).run ops
    (j.header? a now = none ↔ j.sentTo a now = []) ∧
    ∀ text, j.header? a now = some text →
      Header.pairs text = (j.sentTo a now).map (fun c => (c.name, c.value)) ∧
      ∀ p ∈ Header.pairs text, ∃ now' a' header s, (now', .receive a' header) ∈ ops ∧
        SetCookie.parse? header.toList = some s ∧
        p = (String.ofList s.name, String.ofList s.value) := by
  intro j
  rw [header?_eq_ite]
  refine ⟨by simp, ?_⟩
  intro text htext
  obtain ⟨hne, htext⟩ := Option.ite_none_left_eq_some.1 htext
  have hmem : ∀ c ∈ j.sentTo a now, c ∈ j.cookies :=
    fun c hc => (mem_and_isSentTo_of_mem_sentTo hc).1
  have hpairs : Header.pairs text = (j.sentTo a now).map fun c => (c.name, c.value) := by
    rw [← Option.some.inj htext]
    exact Header.pairs_intercalate hne fun c hc => hasPlainPair_run _ hload c (hmem c hc)
  refine ⟨hpairs, ?_⟩
  intro p hp
  rw [hpairs] at hp
  obtain ⟨c, hc, rfl⟩ := List.mem_map.1 hp
  -- The cookie was set by some header of the run, as nothing was loaded.
  rcases exists_stores_of_mem_run hload (hmem c hc) with
    hempty | ⟨before, now', a', header, after, heq, _, hreceived⟩
  · exact absurd hempty List.not_mem_nil
  · obtain ⟨s, _, hs, _, _, _, hparts⟩ := Cookie.exists_of_receive? hreceived
    refine ⟨now', a', header, s, by simp [heq], hs, ?_⟩
    rw [Prod.mk.injEq]
    exact ⟨congrArg Cookie.name hparts, congrArg Cookie.value hparts⟩

set_option maxRecDepth 10000 in
/-- A value that has the looks of a pair, and one that is an equals sign. -/
theorem header?_pairs_misleading :
    let ops : List (Int × Operation) :=
      [(0, .receive ⟨"a.b", "/", .plain⟩ " k =\tl=1, m=2 ;n=3"),
        (1, .receive ⟨"a.b", "/", .plain⟩ "o o==; p=4")]
    let j := (empty (.of 2 2)).run ops
    j.header? ⟨"a.b", "/", .plain⟩ 2 = some "k=l=1, m=2; o o==" ∧
      Header.pairs "k=l=1, m=2; o o==" = [("k", "l=1, m=2"), ("o o", "=")] := by
  intro ops j
  have hload : ∀ o ∈ ops, ∀ cs, o.2 ≠ .load cs := by
    intro o ho cs
    simp only [ops, List.mem_cons, List.not_mem_nil, or_false] at ho
    rcases ho with rfl | rfl <;> simp
  -- Two cookies are sent, whose values look like more pairs.
  have hsent : j.sentTo ⟨"a.b", "/", .plain⟩ 2 =
      [⟨"k", "l=1, m=2", "a.b", "/", true, false, false, none, none, .utc 0⟩,
        ⟨"o o", "=", "a.b", "/", true, false, false, none, none, .utc 1⟩] := by
    have hwithin : (j.within "a.b").filter (·.isSentTo ⟨"a.b", "/", .plain⟩ 2) =
        [⟨"k", "l=1, m=2", "a.b", "/", true, false, false, none, none, .utc 0⟩,
          ⟨"o o", "=", "a.b", "/", true, false, false, none, none, .utc 1⟩] := by decide +kernel
    rw [sentTo_eq, hwithin]
    exact List.mergeSort_of_pairwise (by decide)
  have htext : j.header? ⟨"a.b", "/", .plain⟩ 2 = some "k=l=1, m=2; o o==" := by
    rw [header?_eq_ite, hsent]
    decide
  refine ⟨htext, ?_⟩
  have hpairs := ((header?_pairs hload ⟨"a.b", "/", .plain⟩ 2).2 _ htext).1
  rwa [hsent] at hpairs

end Jar

end HttpState
