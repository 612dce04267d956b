import Mathlib.Data.List.Basic
import Multicast.Proofs.Text.Numerals
import Multicast.Token

/-!
# `Proofs.Token.Grammar` — the tokens that are read, and what they are read as

A token is trimmed and cut at its last plus sign: behind it stands the count, and in front of it the
group, which begins behind the first comma. Both cuts are made before anything is looked at, so that
further plus signs and commas end up in the group. A token is read if its count is digits and its
group is not blank; what is left blank in front of the comma is no source.

## Contents
- **Cuts.** `Token.Cut`, the body and the suffix of a token, of which each token has one
  (`Token.existsUnique_cut`), and `Token.groupPart` of a body.
- **Fields.** `Token.field?_of_trimmed` and `Token.field?_eq_none_iff`.
- **Counts.** `Token.splitCount_of_bare`, `Token.splitCount_of_digits` and
  `Token.splitCount_of_not_digits`, then `Token.read_of_splitCount`.
- **Written tokens.** `Token.Name` and `Token.Padding`, and `Token.written`, which is read back
  (`Token.read_written_count` and `Token.read_written_bare`).
- **Grammar.** `Token.read_accepts_grammar`.
-/

namespace Multicast

namespace Token

open Text

/-! ## Cuts -/

/-- Without the blanks around it, the token is the text. -/
def Strips (token : String) (text : List Char) : Prop :=
  ∃ left right, token.toList = left ++ text ++ right ∧ Blank left ∧ Blank right ∧ Trimmed text

/-- How the stripped token is cut: it is all body, or a body, the last plus sign and a suffix. -/
inductive Cut (token : String) : List Char → Option (List Char) → Prop where
  | bare {body : List Char} : Strips token body → '+' ∉ body → Cut token body none
  | counted {body suffix : List Char} :
    Strips token (body ++ '+' :: suffix) → '+' ∉ suffix → Cut token body (some suffix)

/-- The part of a body that names the group: what stands behind the first comma, or all of it if it
    has none. -/
def groupPart (body : List Char) : List Char :=
  if ',' ∈ body then (body.dropWhile (· ≠ ',')).drop 1 else body

theorem strips_iff {token : String} {text : List Char} :
    Strips token text ↔ trim token.toList = text := trim_eq_iff.symm

/-- A token is cut where the last plus sign of the stripped token is found. -/
theorem cut_iff {token : String} {body : List Char} {suffix? : Option (List Char)} :
    Cut token body suffix? ↔ (body, suffix?) =
      match splitLast? '+' (trim token.toList) with
      | some (before, behind) => (before, some behind)
      | none => (trim token.toList, none) := by
  constructor
  · intro h
    cases h with
    | bare hstrips hplus =>
        rw [strips_iff.1 hstrips, splitLast?_eq_none_iff.2 hplus]
    | counted hstrips hplus =>
        rw [strips_iff.1 hstrips, splitLast?_eq_some_iff.2 ⟨rfl, hplus⟩]
  · intro h
    cases hsplit : splitLast? '+' (trim token.toList) with
    | none =>
        rw [hsplit] at h
        obtain ⟨rfl, rfl⟩ := Prod.mk.inj h
        exact .bare (strips_iff.2 rfl) (splitLast?_eq_none_iff.1 hsplit)
    | some cut =>
        obtain ⟨before, behind⟩ := cut
        rw [hsplit] at h
        obtain ⟨rfl, rfl⟩ := Prod.mk.inj h
        obtain ⟨hbody, hplus⟩ := splitLast?_eq_some_iff.1 hsplit
        exact .counted (strips_iff.2 hbody) hplus

/-- **Every token is cut in one way.** -/
theorem existsUnique_cut (token : String) :
    ∃! cut : List Char × Option (List Char), Cut token cut.1 cut.2 := by
  refine ⟨_, cut_iff.2 rfl, ?_⟩
  intro cut hcut
  exact cut_iff.1 hcut

theorem groupPart_of_comma {front back : List Char} (h : ',' ∉ front) :
    groupPart (front ++ ',' :: back) = back := by
  have hdrop : (front ++ ',' :: back).dropWhile (· ≠ ',') = ',' :: back := by
    rw [List.dropWhile_append_of_pos, List.dropWhile_cons_of_neg (by simp)]
    intro c hc
    have hne : c ≠ ',' := by
      rintro rfl
      exact h hc
    simpa using hne
  rw [groupPart, if_pos (by simp), hdrop]
  rfl

theorem groupPart_of_notMem {body : List Char} (h : ',' ∉ body) : groupPart body = body :=
  if_neg h

/-- The group of a body is what the split at its first comma leaves. -/
theorem splitSource_snd (body : List Char) : (splitSource body).2 = groupPart body := by
  unfold splitSource
  cases hsplit : splitFirst? ',' body with
  | none => exact (groupPart_of_notMem (splitFirst?_eq_none_iff.1 hsplit)).symm
  | some parts =>
      obtain ⟨front, back⟩ := parts
      obtain ⟨rfl, hfront⟩ := splitFirst?_eq_some_iff.1 hsplit
      exact (groupPart_of_comma hfront).symm

/-! ## Fields -/

/-- A field is the text between its blanks. -/
theorem field?_of_trimmed {left text right : List Char} (hleft : Blank left) (hright : Blank right)
    (htext : Trimmed text) (hne : text ≠ []) :
    field? (left ++ text ++ right) = some (String.ofList text) := by
  have htrim : trim (left ++ text ++ right) = text :=
    trim_eq_iff.2 ⟨left, right, rfl, hleft, hright, htext⟩
  simp only [field?, htrim, if_neg hne]

/-- Only a blank field is none. -/
theorem field?_eq_none_iff {cs : List Char} : field? cs = none ↔ ¬∃ c ∈ cs, isBlank c = false := by
  have htrim : trim cs = [] ↔ Blank cs := by
    rw [trim_eq_iff]
    constructor
    · rintro ⟨left, right, rfl, hleft, hright, -⟩ c hc
      rw [List.append_nil, List.mem_append] at hc
      exact hc.elim (hleft c) (hright c)
    · intro hblank
      exact ⟨cs, [], by simp, hblank, by simp [Blank], ⟨by simp, by simp⟩⟩
  have hblank : Blank cs ↔ ¬∃ c ∈ cs, isBlank c = false := by simp [Blank]
  rw [← hblank, ← htrim]
  by_cases h : trim cs = []
  · simp [field?, h]
  · simp [field?, h]

/-! ## Counts -/

/-- A token without a plus sign counts one group. -/
theorem splitCount_of_bare {token : String} {body : List Char} (h : Cut token body none) :
    splitCount token = .ok (body, 1) := by
  cases h with
  | bare hstrips hplus =>
      simp only [splitCount, strips_iff.1 hstrips, splitLast?_eq_none_iff.2 hplus]

/-- A count of digits is the number that they are read as. -/
theorem splitCount_of_digits {token : String} {body suffix : List Char} {n : Int}
    (h : Cut token body (some suffix)) (hne : suffix ≠ []) (hdigits : ∀ c ∈ suffix, isDigitLike c)
    (hread : readInteger (String.ofList suffix) = .ok n) : splitCount token = .ok (body, n) := by
  cases h with
  | counted hstrips hplus =>
      simp only [splitCount, strips_iff.1 hstrips, splitLast?_eq_some_iff.2 ⟨rfl, hplus⟩]
      rw [if_pos ⟨hne, List.all_eq_true.2 hdigits⟩, hread]

/-- A count that is not all digits is refused. -/
theorem splitCount_of_not_digits {token : String} {body suffix : List Char}
    (h : Cut token body (some suffix)) (hdigits : ¬(suffix ≠ [] ∧ ∀ c ∈ suffix, isDigitLike c)) :
    splitCount token = .error (.setup (.badCount token)) := by
  cases h with
  | counted hstrips hplus =>
      simp only [splitCount, strips_iff.1 hstrips, splitLast?_eq_some_iff.2 ⟨rfl, hplus⟩]
      rw [if_neg]
      rintro ⟨hne, hall⟩
      exact hdigits ⟨hne, List.all_eq_true.1 hall⟩

/-- A token whose count was read has the two parts of its body. -/
theorem read_of_splitCount {token : String} {body : List Char} {n : Int}
    (h : splitCount token = .ok (body, n)) :
    read token = match field? (groupPart body) with
      | some group => .ok ⟨(splitSource body).1, group, n⟩
      | none => .error (.setup (.missingGroup token)) := by
  rw [← splitSource_snd]
  unfold read
  rw [h]
  rfl

theorem read_of_splitCount_error {token : String} {e : Fault} (h : splitCount token = .error e) :
    read token = .error e := by
  unfold read
  rw [h]
  rfl

/-- A token whose count was read is read if its group is not blank; otherwise the group is missing. -/
theorem read_of_count {token : String} {body : List Char} {n : Int}
    (h : splitCount token = .ok (body, n)) :
    ((∃ parts, read token = .ok parts) ↔ ∃ c ∈ groupPart body, isBlank c = false) ∧
      ∀ e, read token = .error e → e = .setup (.missingGroup token) := by
  rw [read_of_splitCount h]
  cases hfield : field? (groupPart body) with
  | none =>
      refine ⟨iff_of_false (by simp) (field?_eq_none_iff.1 hfield), ?_⟩
      intro e he
      exact (Except.error.inj he).symm
  | some group =>
      have hgroup : ∃ c ∈ groupPart body, isBlank c = false := by
        by_contra hblank
        rw [field?_eq_none_iff.2 hblank] at hfield
        cases hfield
      exact ⟨iff_of_true ⟨_, rfl⟩ hgroup, by simp⟩

/-! ## Written tokens -/

/-- A source or a group as it can be written into a token: not empty, not padded, and without the
    marks that a token is cut at. -/
structure Name where
  text : List Char
  ne_nil : text ≠ []
  trimmed : Trimmed text
  comma : ',' ∉ text
  plus : '+' ∉ text

/-- The blanks in a written token: around all of it, around the comma and in front of the plus
    sign. -/
structure Padding where
  start : List Char
  beforeComma : List Char
  afterComma : List Char
  beforePlus : List Char
  stop : List Char
  blank : Blank start ∧ Blank beforeComma ∧ Blank afterComma ∧ Blank beforePlus ∧ Blank stop

/-- What a written token has in front of its group. -/
def writtenSource (source : Option Name) (p : Padding) : List Char :=
  match source with
  | some source => source.text ++ p.beforeComma ++ ',' :: p.afterComma
  | none => []

/-- What a written token has behind its group. -/
def writtenCount (count : Option Nat) (p : Padding) : List Char :=
  match count with
  | some n => p.beforePlus ++ '+' :: Nat.toDigits 10 n
  | none => []

/-- A token as it is written from its parts. -/
def written (source : Option Name) (group : Name) (count : Option Nat) (p : Padding) : String :=
  String.ofList (p.start ++ (writtenSource source p ++ group.text ++ writtenCount count p) ++ p.stop)

/-- Blanks are none of the marks. -/
theorem notMem_of_blank {cs : List Char} (h : Blank cs) : ',' ∉ cs ∧ '+' ∉ cs := by
  have hmarks : isBlank ',' = false ∧ isBlank '+' = false := by decide +kernel
  constructor
  · intro hmem
    rw [h _ hmem] at hmarks
    cases hmarks.1
  · intro hmem
    rw [h _ hmem] at hmarks
    cases hmarks.2

/-- A written token starts with its source, or with its group. -/
theorem head_written (source : Option Name) (group : Name) (p : Padding) (behind : List Char) :
    ∀ c ∈ (writtenSource source p ++ group.text ++ behind).head?, isBlank c = false := by
  have hhead : ∀ (name : Name) (rest : List Char), ∀ c ∈ (name.text ++ rest).head?,
      isBlank c = false := by
    intro name rest c hc
    obtain ⟨first, others, htext⟩ := List.exists_cons_of_ne_nil name.ne_nil
    apply name.trimmed.head c
    rw [htext] at hc ⊢
    simpa using hc
  cases source with
  | none =>
      rw [writtenSource, List.nil_append]
      exact hhead group behind
  | some source =>
      rw [writtenSource, List.append_assoc, List.append_assoc, List.append_assoc]
      exact hhead source _

/-- A token that is written without a count is all body. -/
theorem cut_written_bare (source : Option Name) (group : Name) (p : Padding) :
    Cut (written source group none p) (writtenSource source p ++ group.text) none := by
  obtain ⟨hstart, hbefore, hafter, -, hstop⟩ := p.blank
  refine .bare ⟨p.start, p.stop, ?_, hstart, hstop, ?_, ?_⟩ ?_
  · simp [written, writtenCount]
  · have hhead := head_written source group p []
    rwa [List.append_nil] at hhead
  · intro c hc
    apply group.trimmed.last c
    rwa [List.getLast?_append_of_ne_nil _ group.ne_nil] at hc
  · rw [List.mem_append, not_or]
    refine ⟨?_, group.plus⟩
    cases source with
    | none => simp [writtenSource]
    | some source =>
        simp [writtenSource, source.plus, (notMem_of_blank hbefore).2, (notMem_of_blank hafter).2]

/-- A token that is written with a count is cut in front of it. -/
theorem cut_written_count (source : Option Name) (group : Name) (n : Nat) (p : Padding) :
    Cut (written source group (some n) p) (writtenSource source p ++ group.text ++ p.beforePlus)
      (some (Nat.toDigits 10 n)) := by
  obtain ⟨hstart, -, -, -, hstop⟩ := p.blank
  have hdigit : ∀ c ∈ Nat.toDigits 10 n, c.isDigit := fun c hc =>
    Nat.isDigit_of_mem_toDigits (by decide) (by decide) hc
  refine .counted ⟨p.start, p.stop, ?_, hstart, hstop, ?_, ?_⟩ ?_
  · simp [written, writtenCount]
  · rw [List.append_assoc _ p.beforePlus]
    exact head_written source group p _
  · intro c hc
    rw [List.append_cons, List.getLast?_append_of_ne_nil _ Nat.toDigits_ne_nil] at hc
    have hlike := isDigitLike_of_isDigit (hdigit c (List.mem_of_mem_getLast? hc))
    cases hblank : isBlank c with
    | false => rfl
    | true =>
        rw [isDigitLike_of_isBlank hblank] at hlike
        cases hlike
  · intro hplus
    exact absurd (hdigit _ hplus) (by decide)

/-- The body of a written token gives its source and its group back. -/
theorem parts_written (source : Option Name) (group : Name) (p : Padding) {behind : List Char}
    (hbehind : Blank behind) :
    (splitSource (writtenSource source p ++ group.text ++ behind)).1 =
        source.map (String.ofList ·.text) ∧
      field? (groupPart (writtenSource source p ++ group.text ++ behind)) =
        some (String.ofList group.text) := by
  obtain ⟨-, hbefore, hafter, -, -⟩ := p.blank
  have hnone : Blank [] := by simp [Blank]
  cases source with
  | none =>
      have hcomma : ',' ∉ group.text ++ behind := by
        simp [group.comma, (notMem_of_blank hbehind).1]
      rw [writtenSource, List.nil_append, groupPart_of_notMem hcomma, splitSource,
        splitFirst?_eq_none_iff.2 hcomma]
      have hgroup := field?_of_trimmed hnone hbehind group.trimmed group.ne_nil
      exact ⟨rfl, hgroup⟩
  | some source =>
      have hcomma : ',' ∉ source.text ++ p.beforeComma := by
        simp [source.comma, (notMem_of_blank hbefore).1]
      have hbody : writtenSource (some source) p ++ group.text ++ behind =
          source.text ++ p.beforeComma ++ ',' :: (p.afterComma ++ group.text ++ behind) := by
        simp [writtenSource]
      rw [hbody, groupPart_of_comma hcomma, splitSource,
        splitFirst?_eq_some_iff.2 ⟨rfl, hcomma⟩]
      have hsource := field?_of_trimmed hnone hbefore source.trimmed source.ne_nil
      exact ⟨hsource, field?_of_trimmed hafter hbehind group.trimmed group.ne_nil⟩

/-- **A token that is written with a count is read back**, if the count is not too long. -/
theorem read_written_count (source : Option Name) (group : Name) {n : Nat} (p : Padding)
    (hlength : (Nat.toDigits 10 n).length ≤ maxDigits) :
    read (written source group (some n) p) =
      .ok ⟨source.map (String.ofList ·.text), String.ofList group.text, n⟩ := by
  have hdigits : ∀ c ∈ Nat.toDigits 10 n, isDigitLike c := fun c hc =>
    isDigitLike_of_isDigit (Nat.isDigit_of_mem_toDigits (by decide) (by decide) hc)
  have hcount := splitCount_of_digits (cut_written_count source group n p) Nat.toDigits_ne_nil
    hdigits (readInteger_toDigits hlength)
  obtain ⟨-, -, -, hbehind, -⟩ := p.blank
  obtain ⟨hsource, hgroup⟩ := parts_written source group p hbehind
  rw [read_of_splitCount hcount, hgroup, hsource]

/-- **A token that is written without a count is read back**, and counts one group. -/
theorem read_written_bare (source : Option Name) (group : Name) (p : Padding) :
    read (written source group none p) =
      .ok ⟨source.map (String.ofList ·.text), String.ofList group.text, 1⟩ := by
  have hcount := splitCount_of_bare (cut_written_bare source group p)
  have hnone : Blank [] := by simp [Blank]
  obtain ⟨hsource, hgroup⟩ := parts_written source group p hnone
  rw [List.append_nil] at hsource hgroup
  rw [read_of_splitCount hcount, hgroup, hsource]

/-! ## Grammar -/

/-- A suffix of ASCII is a count if it is not empty and all of it are digits. -/
theorem splitCount_of_ascii {token : String} {body suffix : List Char}
    (h : Cut token body (some suffix)) (hascii : ∀ c ∈ suffix, c.toNat < 128)
    (hlength : suffix.length ≤ maxDigits) :
    ((suffix ≠ [] ∧ ∀ c ∈ suffix, c.isDigit) ∧ ∃ n, splitCount token = .ok (body, n)) ∨
      (¬(suffix ≠ [] ∧ ∀ c ∈ suffix, c.isDigit) ∧
        splitCount token = .error (.setup (.badCount token))) := by
  by_cases hdigits : suffix ≠ [] ∧ ∀ c ∈ suffix, c.isDigit
  · obtain ⟨hne, hall⟩ := hdigits
    obtain ⟨n, hn⟩ := exists_readInteger_of_isDigit hne hall hlength
    have hlike : ∀ c ∈ suffix, isDigitLike c := fun c hc => isDigitLike_of_isDigit (hall c hc)
    exact Or.inl ⟨⟨hne, hall⟩, n, splitCount_of_digits h hne hlike hn⟩
  · refine Or.inr ⟨hdigits, splitCount_of_not_digits h ?_⟩
    rintro ⟨hne, hlike⟩
    apply hdigits
    refine ⟨hne, fun c hc => ?_⟩
    rw [← isDigitLike_of_ascii (hascii c hc)]
    exact hlike c hc

/-- **Exactly the tokens of the grammar are read, and written tokens are read back.** Every token is
    cut in one way. If its suffix, where it has one, is of ASCII and not too long, it is read if and
    only if the suffix is digits and the group is not blank, and refused with a setup error otherwise.
    A token that is written from a source, a group and a count is read as these, however it is
    padded. -/
theorem read_accepts_grammar :
    (∀ token : String, ∃! cut : List Char × Option (List Char), Cut token cut.1 cut.2) ∧
    (∀ (token : String) (body : List Char) (suffix? : Option (List Char)), Cut token body suffix? →
      (∀ suffix ∈ suffix?, (∀ c ∈ suffix, c.toNat < 128) ∧ suffix.length ≤ 4300) →
      ((∃ parts, read token = .ok parts) ↔
        (∀ suffix ∈ suffix?, suffix ≠ [] ∧ ∀ c ∈ suffix, c.isDigit) ∧
          ∃ c ∈ groupPart body, isBlank c = false) ∧
      ∀ e, read token = .error e →
        e = .setup (.badCount token) ∨ e = .setup (.missingGroup token)) ∧
    ∀ (source : Option Name) (group : Name) (p : Padding),
      (∀ n : Nat, (Nat.toDigits 10 n).length ≤ 4300 →
        read (written source group (some n) p) =
          .ok ⟨source.map (String.ofList ·.text), String.ofList group.text, n⟩) ∧
      read (written source group none p) =
        .ok ⟨source.map (String.ofList ·.text), String.ofList group.text, 1⟩ := by
  refine ⟨existsUnique_cut, ?_, ?_⟩
  · intro token body suffix? hcut hsuffix
    cases suffix? with
    | none =>
        obtain ⟨hread, herror⟩ := read_of_count (splitCount_of_bare hcut)
        refine ⟨?_, fun e he => Or.inr (herror e he)⟩
        rw [hread]
        simp
    | some suffix =>
        obtain ⟨hascii, hlength⟩ := hsuffix suffix rfl
        rcases splitCount_of_ascii hcut hascii hlength with ⟨hdigits, n, hcount⟩ | ⟨hdigits, hbad⟩
        · obtain ⟨hread, herror⟩ := read_of_count hcount
          refine ⟨?_, fun e he => Or.inr (herror e he)⟩
          rw [hread]
          constructor
          · intro hgroup
            refine ⟨?_, hgroup⟩
            rintro _ ⟨⟩
            exact hdigits
          · exact fun h => h.2
        · have hread := read_of_splitCount_error hbad
          rw [hread]
          refine ⟨iff_of_false (by simp) ?_, ?_⟩
          · rintro ⟨hall, -⟩
            exact hdigits (hall suffix rfl)
          · intro e he
            exact Or.inl (Except.error.inj he).symm
  · intro source group p
    exact ⟨fun n hlength => read_written_count source group p hlength,
      read_written_bare source group p⟩

/-- A padded token is read as its parts, and of two plus signs only the last one is looked behind. -/
theorem padded_is_read_and_sign_is_refused :
    read " 10.0.0.1 ,232.1.1.1\t+12 " = .ok ⟨some "10.0.0.1", "232.1.1.1", 12⟩ ∧
      ¬∃ parts, read "232.1.1.1+2+x" = .ok parts := by
  obtain ⟨-, hgrammar, hwritten⟩ := read_accepts_grammar
  refine ⟨?_, ?_⟩
  · let source : Name :=
      ⟨"10.0.0.1".toList, by decide, by decide +kernel, by decide, by decide⟩
    let group : Name :=
      ⟨"232.1.1.1".toList, by decide, by decide +kernel, by decide, by decide⟩
    exact (hwritten (some source) group ⟨[' '], [' '], [], ['\t'], [' '], by decide +kernel⟩).1 12
      (by decide)
  · have hcut : Cut "232.1.1.1+2+x" "232.1.1.1+2".toList (some ['x']) :=
      .counted ⟨[], [], rfl, by decide, by decide, by decide +kernel⟩ (by decide)
    obtain ⟨hread, -⟩ := hgrammar _ _ _ hcut (by rintro _ ⟨⟩; simp)
    rw [hread]
    rintro ⟨hdigits, -⟩
    exact absurd ((hdigits _ rfl).2 'x' (by simp)) (by decide)

end Token

end Multicast
