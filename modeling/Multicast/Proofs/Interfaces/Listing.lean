import Multicast.Proofs.Act.Outcome
import Multicast.Proofs.Address.Canonical
import Multicast.Proofs.Address.Spelling
import Multicast.Proofs.Text.Numerals

/-!
# `Proofs.Interfaces.Listing` — which of the listed addresses is found

The system's tool lists each address of an interface on a line of its own: the interface, the word of
the family, the address, on a link between two hosts the address at the other end, and the length of
the prefix behind a slash. What is searched for is the word of a family, an address and a slash. So
the address that is found is that of the first line without another end.

## Contents
- **Matching.** `after?_eq_some_iff`, `keyword?_eq_some`, `prefixed?_of_spelled`; `Announced`, what
  stands in front of the slash of a match (`announced_of_marked?`).
- **Skipping.** `Barren` text, in which no match starts (`listedAddress?_of_barren`), and
  `listedAddress?_of_plain` for what a line tells behind its addresses.
- **Lines.** `Spelling` and `Entry`, with `listedAddress?_line`, and `listedAddress?_listing` for a
  whole listing.
- **Searching.** `Interfaces.Lists` and `Interfaces.leading`; `Act.exists_firstAddress_of_lists`,
  `Act.first_direct_address_is_found`, and a link whose address is not
  (`Act.linked_address_is_missed`).
-/

namespace Multicast

open Text

/-- What is no character of addresses is in no text that is made of these. -/
theorem Spelled.notMem {cs : List Char} (h : Spelled cs) {d : Char}
    (hd : Interfaces.isAddressChar d = false) : d ∉ cs := by
  intro hmem
  rw [h d hmem] at hd
  cases hd

theorem Spelled.blank_notMem {cs : List Char} (h : Spelled cs) : ∀ c ∈ cs, isBlank c = false :=
  fun c hc => (isAddressChar_plain (h c hc)).1

namespace Interfaces

/-! ## Matching -/

theorem after?_eq_some_iff {word cs rest : List Char} :
    after? word cs = some rest ↔ cs = word ++ rest := by
  fun_induction after? word cs with
  | case1 cs => simp [eq_comm]
  | case2 c word => simp
  | case3 word d cs ih => simp [ih]
  | case4 c word d cs hne =>
      constructor
      · intro h
        cases h
      · intro h
        exact absurd (List.cons.inj h).1.symm hne

theorem afterBlanks?_eq_some {cs rest : List Char} (h : afterBlanks? cs = some rest) :
    ∃ gap, gap ≠ [] ∧ Blank gap ∧ cs = gap ++ rest := by
  cases cs with
  | nil => cases h
  | cons c cs =>
      rw [afterBlanks?] at h
      by_cases hc : isBlank c
      · rw [if_pos hc] at h
        obtain ⟨gap, hgap, hcs, -⟩ := exists_blank_append cs
        have hrest : cs.dropWhile isBlank = rest := Option.some.inj h
        refine ⟨c :: gap, List.cons_ne_nil _ _, List.forall_mem_cons.2 ⟨hc, hgap⟩, ?_⟩
        rw [List.cons_append, ← hrest, ← hcs]
      · rw [if_neg hc] at h
        cases h

/-- A word is matched with the blanks behind it. -/
theorem keyword?_eq_some {word : String} {previous : Option Char} {cs rest : List Char}
    (h : keyword? word previous cs = some rest) :
    startsWord previous (cs.headD ' ') ∧
      ∃ gap, gap ≠ [] ∧ Blank gap ∧ cs = word.toList ++ gap ++ rest := by
  unfold keyword? at h
  by_cases hstart : startsWord previous (cs.headD ' ')
  · rw [if_pos hstart] at h
    obtain ⟨behind, hafter, hblanks⟩ := Option.bind_eq_some_iff.1 h
    obtain ⟨gap, hne, hgap, rfl⟩ := afterBlanks?_eq_some hblanks
    refine ⟨hstart, gap, hne, hgap, ?_⟩
    rw [after?_eq_some_iff.1 hafter, List.append_assoc]
  · rw [if_neg hstart] at h
    cases h

/-- What is matched in front of a slash is spelled like an address. -/
theorem prefixed?_eq_some {cs address : List Char} (h : prefixed? cs = some address) :
    Spelled address ∧ ∃ after, cs = address ++ '/' :: after := by
  unfold prefixed? at h
  dsimp only at h
  split at h
  · rename_i d after hdrop
    split at h
    · obtain rfl := Option.some.inj h
      refine ⟨?_, d :: after, ?_⟩
      · intro c hc
        exact List.all_eq_true.1 List.all_takeWhile c hc
      · rw [← hdrop, List.takeWhile_append_dropWhile]
    · cases h
  · cases h

/-- An address is matched up to the slash and the digits behind it. -/
theorem prefixed?_of_spelled {address : List Char} (h : Spelled address) (hne : address ≠ [])
    (length : Nat) (more : List Char) :
    prefixed? (address ++ '/' :: (Nat.toDigits 10 length ++ more)) = some address := by
  obtain ⟨d, digits, hdigits⟩ := List.exists_cons_of_ne_nil (Nat.toDigits_ne_nil (b := 10) (n := length))
  have hd : isDecimal d := by
    apply isDecimal_of_isDigit
    have hmem : d ∈ Nat.toDigits 10 length := hdigits ▸ List.mem_cons_self
    exact Nat.isDigit_of_mem_toDigits (by decide) (by decide) hmem
  have hslash : isAddressChar '/' = false := by decide
  unfold prefixed?
  rw [List.takeWhile_append_of_pos h, List.dropWhile_append_of_pos h, hdigits]
  simp [hslash, hne, hd]

/-- The words of the families. -/
def familyWords : List (List Char) := ["inet".toList, "inet6".toList]

/-- A match at a position: the address behind the word of a family, in front of a slash. -/
def marked? (previous : Option Char) (cs : List Char) : Option (List Char) :=
  ((keyword? "inet" previous cs).orElse fun _ => keyword? "inet6" previous cs).bind prefixed?

theorem listedAddress?_cons (previous : Option Char) (c : Char) (cs : List Char) :
    listedAddress? previous (c :: cs) =
      (marked? previous (c :: cs)).or (listedAddress? (some c) cs) := by
  rw [listedAddress?, marked?]
  generalize ((keyword? "inet" previous (c :: cs)).orElse fun _ =>
    keyword? "inet6" previous (c :: cs)).bind prefixed? = found
  cases found with
  | some address => rfl
  | none => rfl

/-- **What a match takes in front of the slash**: the word of a family, blanks, and then nothing but
    the characters of an address. -/
def Announced (front address : List Char) : Prop :=
  Spelled address ∧ ∃ word ∈ familyWords, ∃ gap, gap ≠ [] ∧ Blank gap ∧ front = word ++ gap ++ address

theorem announced_of_marked? {previous : Option Char} {cs address : List Char}
    (h : marked? previous cs = some address) :
    (∃ word ∈ familyWords, ∃ rest, startsWord previous (cs.headD ' ') ∧ cs = word ++ rest ∧
        ∃ c ∈ rest.head?, isBlank c) ∧
      ∃ front after, cs = front ++ '/' :: after ∧ Announced front address := by
  obtain ⟨rest, hword, hprefixed⟩ := Option.bind_eq_some_iff.1 h
  obtain ⟨hspelled, after, rfl⟩ := prefixed?_eq_some hprefixed
  have hkeyword : ∃ word : String, word.toList ∈ familyWords ∧
      keyword? word previous cs = some (address ++ '/' :: after) := by
    cases hfirst : keyword? "inet" previous cs with
    | some found =>
        rw [hfirst] at hword
        exact ⟨"inet", by simp [familyWords], hfirst.trans hword⟩
    | none =>
        rw [hfirst] at hword
        exact ⟨"inet6", by simp [familyWords], hword⟩
  obtain ⟨word, hmem, hmatch⟩ := hkeyword
  obtain ⟨hstart, gap, hne, hgap, hcs⟩ := keyword?_eq_some hmatch
  constructor
  · obtain ⟨c, gap, rfl⟩ := List.exists_cons_of_ne_nil hne
    refine ⟨word.toList, hmem, _, hstart, by rw [hcs, List.append_assoc], c, rfl, ?_⟩
    exact hgap c List.mem_cons_self
  · refine ⟨word.toList ++ gap ++ address, after, ?_, hspelled, word.toList, hmem, gap, hne, hgap, rfl⟩
    rw [hcs, List.append_assoc _ address]

/-- That a word has no blanks is checked letter by letter. -/
theorem isBlank_of_all {word : List Char} (h : word.all fun c => !isBlank c) :
    ∀ c ∈ word, isBlank c = false := by
  intro c hc
  simpa using List.all_eq_true.1 h c hc

/-- The words of the families are no blanks and no slashes, and start with the same letter. -/
theorem plain_of_mem_familyWords {word : List Char} (h : word ∈ familyWords) :
    (∀ c ∈ word, isBlank c = false) ∧ '/' ∉ word ∧ ∃ rest, word = 'i' :: rest := by
  have hall : ∀ word ∈ familyWords, word.all (fun c => !isBlank c) ∧ '/' ∉ word ∧
      word.head? = some 'i' := by
    decide +kernel
  obtain ⟨hblank, hslash, hhead⟩ := hall word h
  exact ⟨isBlank_of_all hblank, hslash, List.head?_eq_some_iff.1 hhead⟩

theorem isBlank_slash : isBlank '/' = false := by decide +kernel

/-- What stands in front of the first slash decides what a match takes. -/
theorem announced_of_front {previous : Option Char} {front after address : List Char}
    (hfront : '/' ∉ front) (h : marked? previous (front ++ '/' :: after) = some address) :
    Announced front address := by
  obtain ⟨-, front', after', hcs, hannounced⟩ := announced_of_marked? h
  obtain ⟨hspelled, word, hword, gap, hne, hgap, hparts⟩ := hannounced
  have hfront' : '/' ∉ front' := by
    rw [hparts]
    simp only [List.mem_append, not_or]
    refine ⟨⟨(plain_of_mem_familyWords hword).2.1, ?_⟩, ?_⟩
    · intro hslash
      have hblank := hgap _ hslash
      rw [isBlank_slash] at hblank
      cases hblank
    · exact hspelled.notMem (by decide)
  -- Both are the text in front of the first slash.
  have hsplit := splitFirst?_eq_some_iff.2 ⟨hcs, hfront'⟩
  rw [splitFirst?_eq_some_iff.2 ⟨rfl, hfront⟩] at hsplit
  obtain ⟨rfl, -⟩ := Prod.mk.inj (Option.some.inj hsplit)
  exact ⟨hspelled, word, hword, gap, hne, hgap, hparts⟩

/-- A text without blanks behind the last blank of another is determined by it. -/
theorem eq_of_last_blank {xs ys us vs : List Char} {b c : Char} (hb : isBlank b) (hc : isBlank c)
    (hus : ∀ d ∈ us, isBlank d = false) (hvs : ∀ d ∈ vs, isBlank d = false)
    (h : xs ++ b :: us = ys ++ c :: vs) : xs = ys ∧ us = vs := by
  have hlast : ∀ (xs : List Char) {us : List Char} {b : Char}, isBlank b → (∀ d ∈ us, isBlank d = false) →
      (xs ++ b :: us).reverse.takeWhile (!isBlank ·) = us.reverse := by
    intro xs us b hb hus
    have hrest : ∀ d ∈ us.reverse, (!isBlank d) = true := by
      intro d hd
      rw [hus d (List.mem_reverse.1 hd)]
      rfl
    rw [List.reverse_append, List.reverse_cons, List.append_assoc,
      List.takeWhile_append_of_pos hrest]
    simp [hb]
  have hrun := hlast xs hb hus
  rw [h, hlast ys hc hvs] at hrun
  have hsame : us = vs := (List.reverse_inj.1 hrun).symm
  subst hsame
  refine ⟨?_, rfl⟩
  have hlength := congrArg List.length h
  simp only [List.length_append, List.length_cons] at hlength
  exact (List.append_inj h (by omega)).1

/-- **A match takes two fields, never more**: a word behind a blank is none of its own. -/
theorem not_announced {front word last address : List Char} (hne : word ≠ [])
    (hword : ∀ c ∈ word, isBlank c = false) (hlast : ∀ c ∈ last, isBlank c = false) :
    ¬Announced (front ++ ' ' :: (word ++ ' ' :: last)) address := by
  rintro ⟨hspelled, name, hname, gap, hgapne, hgap, hparts⟩
  have hblank : isBlank ' ' := by decide +kernel
  -- The blank in front of the last field ends the gap.
  obtain ⟨gap', b, rfl⟩ := (List.eq_nil_or_concat' gap).resolve_left hgapne
  have hfields : (front ++ ' ' :: word) ++ ' ' :: last = (name ++ gap') ++ b :: address := by
    simpa using hparts
  obtain ⟨hrest, -⟩ := eq_of_last_blank hblank (hgap b (by simp)) hlast hspelled.blank_notMem hfields
  -- No blank is left for the gap then, so that the word would have one.
  have hnone : gap' = [] := by
    by_contra hgap'
    obtain ⟨gap'', b', rfl⟩ := (List.eq_nil_or_concat' gap').resolve_left hgap'
    obtain ⟨word', c, rfl⟩ := (List.eq_nil_or_concat' word).resolve_left hne
    have hends := congrArg List.getLast? hrest
    simp only [← List.append_assoc, ← List.cons_append, List.getLast?_concat] at hends
    have hc := hword c (by simp)
    rw [Option.some.inj hends, hgap b' (by simp)] at hc
    cases hc
  rw [hnone, List.append_nil] at hrest
  have hinside := (plain_of_mem_familyWords hname).1 ' ' (by rw [← hrest]; simp)
  rw [hblank] at hinside
  cases hinside

/-! ## Skipping -/

/-- No match starts in a text, whatever stands in front of it. -/
def Barren (cs rest : List Char) : Prop :=
  ∀ before c after, cs = before ++ c :: after → ∀ previous,
    marked? previous (c :: (after ++ rest)) = none

/-- **Barren text is skipped.** -/
theorem listedAddress?_of_barren {cs rest : List Char} (h : Barren cs rest)
    (previous : Option Char) :
    listedAddress? previous (cs ++ rest) = listedAddress? (cs.getLast?.or previous) rest := by
  induction cs generalizing previous with
  | nil => simp
  | cons c cs ih =>
      have hrest : Barren cs rest := by
        intro before d after hcs
        exact h (c :: before) d after (by rw [hcs, List.cons_append])
      rw [List.cons_append, listedAddress?_cons, h [] c cs rfl, Option.none_or, ih hrest,
        List.getLast?_cons]
      cases cs.getLast? <;> rfl

/-- A match starts with the first letter of a family's word. -/
theorem marked?_of_ne {c : Char} (hc : c ≠ 'i') (previous : Option Char) (cs : List Char) :
    marked? previous (c :: cs) = none := by
  rw [Option.eq_none_iff_forall_ne_some]
  intro address h
  obtain ⟨⟨word, hword, rest, -, hcs, -⟩, -⟩ := announced_of_marked? h
  obtain ⟨-, -, letters, rfl⟩ := plain_of_mem_familyWords hword
  exact hc (List.cons.inj hcs).1

theorem barren_of_notMem {cs : List Char} (h : 'i' ∉ cs) (rest : List Char) : Barren cs rest := by
  intro before c after hcs previous
  apply marked?_of_ne
  rintro rfl
  apply h
  simp [hcs]

/-- **A text is barren if two more fields stand behind it** in front of the slash. -/
theorem barren_of_fields (front : List Char) {word last : List Char} (hne : word ≠ [])
    (hword : ∀ c ∈ word, isBlank c = false) (hlast : ∀ c ∈ last, isBlank c = false)
    (hslash : '/' ∉ front ++ ' ' :: (word ++ ' ' :: last)) (back : List Char) :
    Barren (front ++ [' ']) (word ++ ' ' :: (last ++ '/' :: back)) := by
  intro before c after hfront previous
  -- The text from the position on ends with the same blank.
  obtain ⟨middle, hmiddle⟩ : ∃ middle, c :: after = middle ++ [' '] := by
    obtain ⟨middle, d, hd⟩ := (List.eq_nil_or_concat' (c :: after)).resolve_left (List.cons_ne_nil _ _)
    have hends := congrArg List.getLast? hfront
    rw [hd, ← List.append_assoc, List.getLast?_concat, List.getLast?_concat] at hends
    exact ⟨middle, by rw [hd, Option.some.inj hends]⟩
  have hfrom : front = before ++ middle := by
    rw [hmiddle, ← List.append_assoc] at hfront
    exact List.append_cancel_right hfront
  have hcs : c :: (after ++ (word ++ ' ' :: (last ++ '/' :: back))) =
      (middle ++ ' ' :: (word ++ ' ' :: last)) ++ '/' :: back := by
    rw [← List.cons_append, hmiddle]
    simp
  rw [Option.eq_none_iff_forall_ne_some]
  intro address h
  rw [hcs] at h
  apply not_announced hne hword hlast (announced_of_front _ h)
  intro hmem
  apply hslash
  rw [hfrom, List.append_assoc]
  exact List.mem_append_right _ hmem

/-- Whether a word stands somewhere in a text, with nothing of a word in front of it and a blank or
the end behind it. -/
def mentions (word : List Char) (previous : Option Char) : List Char → Bool
  | [] => false
  | c :: cs =>
    (startsWord previous c && (after? word (c :: cs)).any (·.head?.all isBlank)) ||
      mentions word (some c) cs

/-- **The end of a line without the words of the families is skipped.** -/
theorem listedAddress?_of_plain {previous : Option Char} {cs : List Char}
    (h : ∀ word ∈ familyWords, mentions word previous cs = false) (more : List Char) :
    listedAddress? previous (cs ++ '\n' :: more) = listedAddress? (some '\n') more := by
  induction cs generalizing previous with
  | nil =>
      have hnone : marked? previous ('\n' :: more) = none := marked?_of_ne (by decide) _ _
      rw [List.nil_append, listedAddress?_cons, hnone, Option.none_or]
  | cons c cs ih =>
      have hnone : marked? previous (c :: (cs ++ '\n' :: more)) = none := by
        rw [Option.eq_none_iff_forall_ne_some]
        intro address hmatch
        obtain ⟨⟨word, hword, rest, hstart, hcs, b, hb, hblank⟩, -⟩ := announced_of_marked? hmatch
        have hnewline : '\n' ∉ word := by
          intro hmem
          have hplain := (plain_of_mem_familyWords hword).1 _ hmem
          revert hplain
          decide +kernel
        -- The word ends in front of the end of the line, with a blank or that end behind it.
        have hcut : (c :: cs) ++ '\n' :: more = word ++ rest := hcs
        obtain ⟨behind, hbehind, hends⟩ : ∃ behind, c :: cs = word ++ behind ∧
            behind.head?.all isBlank := by
          rcases List.append_eq_append_iff.1 hcut with ⟨beyond, rfl, hbeyond⟩ | ⟨behind, hbehind, rfl⟩
          · cases beyond with
            | nil => exact ⟨[], by simp, rfl⟩
            | cons d beyond =>
                obtain ⟨rfl, -⟩ := List.cons.inj hbeyond
                exact absurd (by simp) hnewline
          · refine ⟨behind, hbehind, ?_⟩
            cases behind with
            | nil => rfl
            | cons d behind =>
                obtain rfl : d = b := by simpa using hb
                simp [hblank]
        have hplain := h word hword
        rw [mentions, after?_eq_some_iff.2 hbehind] at hplain
        have hstart : startsWord previous c = true := hstart
        simp [hstart, hends] at hplain
      rw [List.cons_append, listedAddress?_cons, hnone, Option.none_or]
      apply ih
      intro word hword
      have hplain := h word hword
      rw [mentions, Bool.or_eq_false_iff] at hplain
      exact hplain.2

end Interfaces

open Interfaces

/-! ## Lines -/

/-- The word that stands for a family in a listing. -/
def Family.word : Family → String
  | inet => "inet"
  | inet6 => "inet6"

/-- A text that is read as an address of a family. -/
structure Spelling (f : Family) where
  text : String
  address : Address
  reads : Address.readAs? f text = some address

theorem Spelling.spelled {f : Family} (s : Spelling f) : Spelled s.text.toList ∧ s.text.toList ≠ [] := by
  have hread : Address.read? s.text = some s.address := by
    rw [Address.read?, Address.ofText_of_readAs? s.reads]
    exact s.reads
  exact ⟨Address.spelled_of_read? hread, Address.ne_nil_of_read? hread⟩

namespace Interfaces

/-- An address of an interface, as it is listed. -/
structure Entry (f : Family) where
  /-- The number of the interface. -/
  index : Nat
  /-- How far the word of the family is moved to the right. -/
  indent : Nat := 0
  address : Spelling f
  /-- The address at the other end, on a link between two hosts. -/
  peer : Option (Spelling f) := none
  /-- The length of the prefix. -/
  length : Nat
  /-- What else the line tells. -/
  rest : String := ""
  plain : ∀ word ∈ familyWords, mentions word none rest.toList = false := by decide +kernel

namespace Entry

variable {f : Family} (interface : String) (e : Entry f)

/-- What stands in front of the word of the family, but for the last blank. -/
def lead : List Char :=
  Nat.toDigits 10 e.index ++ [':', ' '] ++ interface.toList ++ List.replicate e.indent ' '

/-- What stands behind the addresses: the length of the prefix, and what else there is. -/
def trail : List Char := '/' :: (Nat.toDigits 10 e.length ++ e.rest.toList)

/-- The address, and the one at the other end if there is one. -/
def ends : List Char :=
  match e.peer with
  | none => e.address.text.toList
  | some peer => e.address.text.toList ++ " peer ".toList ++ peer.text.toList

/-- The line of the entry. -/
def line : List Char :=
  e.lead interface ++ [' '] ++ f.word.toList ++ [' '] ++ e.ends ++ e.trail

/-- The address, on an interface that is no link between two hosts. -/
def direct? : Option String :=
  match e.peer with
  | none => some e.address.text
  | some _ => none

end Entry

/-- The listing of the addresses of an interface, a line for each. -/
def listing {f : Family} (interface : String) (entries : List (Entry f)) : List Char :=
  entries.flatMap fun e => e.line interface ++ ['\n']

section

variable {f : Family} {interface : String}

theorem word_mem_familyWords (f : Family) : f.word.toList ∈ familyWords := by
  cases f <;> simp [familyWords, Family.word]

theorem notMem_digits {d : Char} (hd : d.isDigit = false) (n : Nat) : d ∉ Nat.toDigits 10 n := by
  intro hmem
  rw [Nat.isDigit_of_mem_toDigits (by decide) (by decide) hmem] at hd
  cases hd

theorem slash_notMem_lead (hname : '/' ∉ interface.toList) (e : Entry f) :
    '/' ∉ e.lead interface := by
  have hdigits := notMem_digits (show '/'.isDigit = false by decide) e.index
  simp [Entry.lead, hname, hdigits]

/-- At the word of the family, the address behind it is matched if a slash follows. -/
theorem marked?_of_word {address : List Char} (h : Spelled address) (hne : address ≠ [])
    (length : Nat) (more : List Char) :
    marked? (some ' ') (f.word.toList ++ ' ' :: (address ++ '/' ::
      (Nat.toDigits 10 length ++ more))) = some address := by
  have hprefixed := prefixed?_of_spelled h hne length more
  obtain ⟨c, cs, rfl⟩ := List.exists_cons_of_ne_nil hne
  rw [List.cons_append] at hprefixed
  have hstart : startsWord (some ' ') 'i' = true := by decide +kernel
  have hblank : isBlank ' ' = true := by decide +kernel
  have hsix : isBlank '6' = false := by decide +kernel
  have hc : isBlank c = false := (isAddressChar_plain (h c List.mem_cons_self)).1
  cases f with
  | inet =>
      have hword : "inet".toList = ['i', 'n', 'e', 't'] := by decide
      simp [marked?, keyword?, Family.word, hword, after?, afterBlanks?, hstart, hblank, hc, hprefixed]
  | inet6 =>
      have hword : "inet6".toList = ['i', 'n', 'e', 't', '6'] := by decide
      have hshort : "inet".toList = ['i', 'n', 'e', 't'] := by decide
      simp [marked?, keyword?, Family.word, hword, hshort, after?, afterBlanks?, hstart, hblank, hsix,
        hc, hprefixed]

/-- Fewer words start behind a character than at the start of a text. -/
theorem mentions_of_none {word cs : List Char} (h : mentions word none cs = false) (c : Char) :
    mentions word (some c) cs = false := by
  cases cs with
  | nil => rfl
  | cons d cs =>
      rw [mentions, Bool.or_eq_false_iff, Bool.and_eq_false_iff] at h ⊢
      refine ⟨h.1.imp_left ?_, h.2⟩
      intro hstart
      simp only [startsWord, Option.any_none, Bool.not_false, Bool.and_true] at hstart
      simp [startsWord, hstart]

/-- A line with one address is matched at the word of the family. -/
theorem listedAddress?_own (hname : '/' ∉ interface.toList) {e : Entry f} (hpeer : e.peer = none)
    (previous : Option Char) (more : List Char) :
    listedAddress? previous (e.line interface ++ '\n' :: more) = some e.address.text.toList := by
  obtain ⟨hspelled, hne⟩ := e.address.spelled
  obtain ⟨hword, hslash, letters, hletters⟩ := plain_of_mem_familyWords (word_mem_familyWords f)
  have hlead := slash_notMem_lead hname e
  have hline : e.line interface ++ '\n' :: more =
      (e.lead interface ++ [' ']) ++ (f.word.toList ++ ' ' :: (e.address.text.toList ++ '/' ::
        (Nat.toDigits 10 e.length ++ (e.rest.toList ++ '\n' :: more)))) := by
    simp [Entry.line, Entry.ends, Entry.trail, hpeer]
  have haddress := hspelled.notMem (show isAddressChar '/' = false by decide)
  have hbarren := barren_of_fields (e.lead interface) (by simp [hletters]) hword
    hspelled.blank_notMem (by simp [hlead, hslash, haddress])
    (Nat.toDigits 10 e.length ++ (e.rest.toList ++ '\n' :: more))
  have hmatch := marked?_of_word (f := f) hspelled hne e.length (e.rest.toList ++ '\n' :: more)
  rw [hline, listedAddress?_of_barren hbarren, List.getLast?_concat, Option.some_or]
  rw [hletters, List.cons_append] at hmatch ⊢
  rw [listedAddress?_cons, hmatch, Option.some_or]

/-- What stands in front of the rest of a line with two addresses: the fields that are one too many
    for a match, and the address at the other end with its slash. -/
theorem line_of_peer {e : Entry f} {peer : Spelling f} (hpeer : e.peer = some peer) (more : List Char) :
    e.line interface ++ '\n' :: more =
      ((e.lead interface ++ [' '] ++ f.word.toList ++ [' '] ++ e.address.text.toList) ++ [' ']) ++
        (("peer".toList ++ ' ' :: (peer.text.toList ++ '/' :: Nat.toDigits 10 e.length)) ++
          (e.rest.toList ++ '\n' :: more)) := by
  have hwords : " peer ".toList = ' ' :: ("peer".toList ++ [' ']) := by decide
  simp only [Entry.line, Entry.ends, Entry.trail, hpeer, hwords]
  simp

/-- A line with two addresses is passed over. -/
theorem listedAddress?_linked (hname : '/' ∉ interface.toList) {e : Entry f} {peer : Spelling f}
    (hpeer : e.peer = some peer) (previous : Option Char) (more : List Char) :
    listedAddress? previous (e.line interface ++ '\n' :: more) = listedAddress? (some '\n') more := by
  obtain ⟨hspelled, -⟩ := e.address.spelled
  obtain ⟨hspelled', -⟩ := peer.spelled
  obtain ⟨-, hslash, -⟩ := plain_of_mem_familyWords (word_mem_familyWords f)
  have hlead := slash_notMem_lead hname e
  have haddressSlash : isAddressChar '/' = false := by decide
  have haddressLetter : isAddressChar 'i' = false := by decide
  have hdigits := notMem_digits (show 'i'.isDigit = false by decide) e.length
  -- No match starts in front of the slash, where there are too many fields.
  have hbarren := barren_of_fields
    (e.lead interface ++ [' '] ++ f.word.toList ++ [' '] ++ e.address.text.toList)
    (show "peer".toList ≠ [] by decide) (isBlank_of_all (by decide +kernel)) hspelled'.blank_notMem
    (by simp [hlead, hslash, hspelled.notMem haddressSlash, hspelled'.notMem haddressSlash])
    (Nat.toDigits 10 e.length ++ (e.rest.toList ++ '\n' :: more))
  have hshape : "peer".toList ++ ' ' :: (peer.text.toList ++ '/' ::
        (Nat.toDigits 10 e.length ++ (e.rest.toList ++ '\n' :: more))) =
      ("peer".toList ++ ' ' :: (peer.text.toList ++ '/' :: Nat.toDigits 10 e.length)) ++
        (e.rest.toList ++ '\n' :: more) := by
    simp
  rw [hshape] at hbarren
  -- Nor does one start at the other end, where no word of a family does.
  have hnone : 'i' ∉ "peer".toList ++ ' ' :: (peer.text.toList ++ '/' :: Nat.toDigits 10 e.length) := by
    simp [hspelled'.notMem haddressLetter, hdigits]
  have hbarren' := barren_of_notMem hnone (e.rest.toList ++ '\n' :: more)
  obtain ⟨d, hd⟩ : ∃ d, ("peer".toList ++ ' ' ::
      (peer.text.toList ++ '/' :: Nat.toDigits 10 e.length)).getLast? = some d :=
    ⟨_, List.getLast?_eq_some_getLast (by simp)⟩
  rw [line_of_peer hpeer, listedAddress?_of_barren hbarren, listedAddress?_of_barren hbarren', hd,
    Option.some_or, listedAddress?_of_plain fun word hword => mentions_of_none (e.plain word hword) d]

/-- **A line shows the address in front of the slash**, if that is the interface's own; else the
    search goes on behind the line. -/
theorem listedAddress?_line (hname : '/' ∉ interface.toList) (e : Entry f) (previous : Option Char)
    (more : List Char) :
    listedAddress? previous (e.line interface ++ '\n' :: more) =
      (e.direct?.map String.toList).or
        (if e.peer.isSome then listedAddress? (some '\n') more else none) := by
  cases hpeer : e.peer with
  | none =>
      rw [listedAddress?_own hname hpeer]
      simp [Entry.direct?, hpeer]
  | some peer =>
      rw [listedAddress?_linked hname hpeer]
      simp [Entry.direct?, hpeer]

/-- The address that a listing shows: that of the first line without another end. -/
def shown (entries : List (Entry f)) : Option String := entries.findSome? Entry.direct?

/-- **A listing shows the address of the first line without another end.** -/
theorem listedAddress?_listing (hname : '/' ∉ interface.toList) (entries : List (Entry f))
    (previous : Option Char) :
    listedAddress? previous (listing interface entries) = (shown entries).map String.toList := by
  induction entries generalizing previous with
  | nil => rfl
  | cons e entries ih =>
      have hcons : listing interface (e :: entries) =
          e.line interface ++ '\n' :: listing interface entries := by
        simp [listing]
      rw [hcons, listedAddress?_line hname]
      cases hpeer : e.peer with
      | none => simp [shown, Entry.direct?, hpeer]
      | some peer => simp [shown, Entry.direct?, hpeer, ih]

/-- Nothing is shown of an interface all of whose addresses have another end. -/
theorem shown_eq_none_iff {entries : List (Entry f)} :
    shown entries = none ↔ ∀ e ∈ entries, e.peer.isSome := by
  unfold shown
  rw [List.findSome?_eq_none_iff]
  refine forall₂_congr fun e _ => ?_
  unfold Entry.direct?
  cases e.peer <;> simp

end

/-! ## Searching -/

/-- The number that asks for the addresses of a family, or of either. -/
def askedNumber (family : Option Family) : Int := family.elim 0 fun f => f.number

/-- The families that are looked through, IPv4 first. -/
def askedFor (family : Option Family) : List Family := family.elim [.inet, .inet6] ([·])

theorem familiesOf_askedNumber (family : Option Family) :
    familiesOf (askedNumber family) = (askedFor family).map fun f => (f.number : Int) := by
  rcases family with - | f
  · rfl
  · cases f <;> rfl

/-- The system's tool lists these addresses of an interface. -/
def Lists (w : World) (interface : String) {f : Family} (entries : List (Entry f)) : Prop :=
  (w.host.commands.lookup (addressCommand interface f.number)).getD "" =
    String.ofList (listing interface entries)

/-- The world after the addresses of an interface were asked for, of one family after the other. -/
def asked (interface : String) (families : List Family) (w : World) : World :=
  let calls := families.map fun f => Call.command (addressCommand interface f.number)
  { w with host := { w.host with trace := calls.foldl Array.push w.host.trace } }

/-- The first line of the first family that has any. -/
def leading (families : List Family) (entries : ∀ f, List (Entry f)) : Option (Σ f, Entry f) :=
  families.findSome? fun f => (entries f).head?.map (⟨f, ·⟩)

/-- **If the leading line has no other end, its address is shown.** -/
theorem shown_of_leading {families : List Family} {entries : ∀ f, List (Entry f)}
    (h : ∀ e ∈ leading families entries, e.2.peer = none) :
    (families.findSome? fun f => shown (entries f)) =
      (leading families entries).map (·.2.address.text) := by
  induction families with
  | nil => rfl
  | cons f families ih =>
      unfold leading at h ih ⊢
      rw [List.findSome?_cons, List.findSome?_cons]
      cases hentries : entries f with
      | nil =>
          apply ih
          rw [List.findSome?_cons, hentries] at h
          exact h
      | cons e rest =>
          rw [List.findSome?_cons, hentries] at h
          have hpeer : e.peer = none := h ⟨f, e⟩ rfl
          simp [shown, Entry.direct?, hpeer]

end Interfaces

namespace Act

open Interfaces

variable {w : World} {interface : String}

/-- What is done without a listed address: the host's own is tried if that is allowed. -/
def elsewhere (family : Int) (fallback : Bool) : Act String := do
  let own ← if fallback then hostAddress family else pure none
  pure (own.getD (anyAddress family))

/-- The families are asked in their order, up to the first that shows an address. -/
theorem exists_firstAddress_of_lists (hname : interface ≠ "") (hslash : '/' ∉ interface.toList)
    {families : List Family} {entries : ∀ f, List (Entry f)}
    (h : ∀ f ∈ families, Lists w interface (entries f)) :
    ∃ front, front <+: families ∧
      firstAddress interface (families.map fun f => (f.number : Int)) w =
        .ok (families.findSome? fun f => shown (entries f)) (asked interface front w) := by
  induction families generalizing w with
  | nil => exact ⟨[], List.prefix_rfl, rfl⟩
  | cons f families ih =>
      have houtput : output (addressCommand interface f.number) w =
          .ok (String.ofList (listing interface (entries f))) (asked interface [f] w) :=
        congrArg (EStateM.Result.ok · (asked interface [f] w)) (h f List.mem_cons_self)
      rw [List.map_cons, firstAddress, if_neg hname, bind_of_ok houtput]
      dsimp only
      rw [String.toList_ofList, listedAddress?_listing hslash, List.findSome?_cons]
      cases hshown : shown (entries f) with
      | some address =>
          refine ⟨[f], ⟨families, rfl⟩, ?_⟩
          simp
      | none =>
          obtain ⟨front, hfront, hfirst⟩ := ih (w := asked interface [f] w)
            fun g hg => h g (List.mem_cons_of_mem _ hg)
          exact ⟨f :: front, (List.prefix_cons_inj f).2 hfront, hfirst⟩

/-- **The address that is found is that of the first line without another end**, of IPv4 if either
    family will do. Without such a line, and only then, the address is looked for elsewhere. So it is
    that of the leading line if this has no other end. -/
theorem first_direct_address_is_found (hname : interface ≠ "") (hslash : '/' ∉ interface.toList)
    (family : Option Family) {entries : ∀ f, List (Entry f)}
    (h : ∀ f ∈ askedFor family, Lists w interface (entries f)) (fallback : Bool) :
    ∃ front, front <+: askedFor family ∧
      let found := (askedFor family).findSome? fun f => shown (entries f)
      (∀ address, found = some address →
        interfaceAddress interface (askedNumber family) fallback w =
          .ok address (asked interface front w)) ∧
      (found = none →
        interfaceAddress interface (askedNumber family) fallback w =
          elsewhere ((familiesOf (askedNumber family)).headD 2) fallback (asked interface front w)) ∧
      (found = none ↔ ∀ f ∈ askedFor family, ∀ e ∈ entries f, e.peer.isSome) ∧
      ((∀ e ∈ leading (askedFor family) entries, e.2.peer = none) →
        found = (leading (askedFor family) entries).map (·.2.address.text)) := by
  obtain ⟨front, hfront, hfirst⟩ := exists_firstAddress_of_lists hname hslash h
  rw [← familiesOf_askedNumber] at hfirst
  refine ⟨front, hfront, ?_, ?_, ?_, shown_of_leading⟩
  · intro address hfound
    rw [hfound] at hfirst
    unfold interfaceAddress
    rw [bind_of_ok hfirst]
    rfl
  · intro hfound
    rw [hfound] at hfirst
    unfold interfaceAddress
    rw [bind_of_ok hfirst]
    rfl
  · rw [List.findSome?_eq_none_iff]
    exact forall₂_congr fun f _ => shown_eq_none_iff

/-- A host with an IPv6 address on a network, and one on a link to another host. -/
def twoEnded : World where
  host := {
    commands := [
      ("ip -o -6 addr show dev eth0 2>/dev/null",
        "2: eth0    inet6 fd00::2/64 scope global\n" ++
        "2: eth0    inet6 fe80::2 peer fe80::1/64 scope link\n"),
      ("ip -o -4 addr show dev ppp0 2>/dev/null",
        "5: ppp0    inet 10.64.64.1 peer 10.64.64.2/32 scope global ppp0\n")] }
  flags := { period := .ofNat 1 }

/-- Without an IPv4 address, the IPv6 one is found that is listed first. -/
theorem second_family_is_asked : ∃ w', interfaceAddress "eth0" 0 true twoEnded = .ok "fd00::2" w' := by
  let onNetwork : Entry .inet6 := {
    index := 2
    indent := 3
    address := ⟨"fd00::2", .v6 0xfd0000000000000000000000 2, by decide +kernel⟩
    length := 64
    rest := " scope global" }
  let onLink : Entry .inet6 := {
    index := 2
    indent := 3
    address := ⟨"fe80::2", .v6 0xfe8000000000000000000000 2, by decide +kernel⟩
    peer := some ⟨"fe80::1", .v6 0xfe8000000000000000000000 1, by decide +kernel⟩
    length := 64
    rest := " scope link" }
  let entries : ∀ f, List (Entry f)
    | .inet => []
    | .inet6 => [onNetwork, onLink]
  have hlists : ∀ f ∈ askedFor none, Lists twoEnded "eth0" (entries f) := by
    intro f _
    unfold Interfaces.Lists
    cases f
    · decide +kernel
    · decide +kernel
  obtain ⟨front, -, hfound, -, -, -⟩ :=
    first_direct_address_is_found (by decide) (by decide) none hlists true
  exact ⟨_, hfound "fd00::2" rfl⟩

/-- **On a link, the only address is missed**: the tool lists it, and the one that stands for any other
    is taken instead. -/
theorem linked_address_is_missed :
    ∃ e : Entry .inet, e.address.text = "10.64.64.1" ∧ Lists twoEnded "ppp0" [e] ∧
      ∃ w', interfaceAddress "ppp0" 2 true twoEnded = .ok "0.0.0.0" w' := by
  let e : Entry .inet := {
    index := 5
    indent := 3
    address := ⟨"10.64.64.1", .v4 0x0a404001, by decide +kernel⟩
    peer := some ⟨"10.64.64.2", .v4 0x0a404002, by decide +kernel⟩
    length := 32
    rest := " scope global ppp0" }
  have hlists : Lists twoEnded "ppp0" [e] := by
    unfold Interfaces.Lists
    decide +kernel
  let entries : ∀ f, List (Entry f)
    | .inet => [e]
    | .inet6 => []
  have hall : ∀ f ∈ [Family.inet], Lists twoEnded "ppp0" (entries f) := by
    intro f hf
    obtain rfl := List.mem_singleton.1 hf
    exact hlists
  obtain ⟨front, -, hfirst⟩ := exists_firstAddress_of_lists (by decide) (by decide) hall
  refine ⟨e, rfl, hlists, ?_⟩
  have hfamilies : familiesOf 2 = [Family.inet].map fun f => (f.number : Int) := rfl
  have hnone : ([Family.inet].findSome? fun f => shown (entries f)) = none := rfl
  rw [hnone] at hfirst
  unfold interfaceAddress
  rw [hfamilies, bind_of_ok hfirst]
  exact ⟨_, rfl⟩

end Act

end Multicast
