import Multicast.Address.Text

/-!
# `Proofs.Address.RoundTrip` — printed addresses are read back

Groups beyond the first of a token are kept as printed text, and resolving a session reads that text
again. Nothing is lost on the way: the family of a printed address is the address's own, and reading
it gives the address back, whichever run of zero words was left out and whether or not the last 32
bits were printed as an IPv4 address.

## Contents
- **Digits.** `mapM_toDigits`: the digits of a number are read as that number, in either base.
- **Fields.** `readOctet?_toDigits`, `readWord?_toDigits` and `readDotted?_dotted`.
- **Gaps.** `splitGap?_intercalate` and `splitGap?_intercalate_append`: the two colons that mark the
  gap are the first two in a row.
- **Zero words.** `zeroGap_eq_some`: what is left out is a run of zero words.
- **Addresses.** `readColons?_colons`, `Family.ofText_text` and `Address.read?_text`.
-/

namespace Multicast

/-! ## Digits -/

theorem decimalValue?_digitChar {d : Nat} (h : d < 10) : decimalValue? d.digitChar = some d := by
  revert d; decide

theorem hexValue?_digitChar {d : Nat} (h : d < 16) : hexValue? d.digitChar = some d := by
  revert d; decide

@[simp] theorem valueOf_append_singleton (base : Nat) (ds : List Nat) (d : Nat) :
    valueOf base (ds ++ [d]) = base * valueOf base ds + d := by
  simp [valueOf]

/-- **The digits of a number are read as that number**, by any reading of single digits that knows
    the digits of the base. Follows the digits from the last one on. -/
theorem mapM_toDigits {base : Nat} (hb : 1 < base) {value? : Char → Option Nat}
    (hv : ∀ d < base, value? d.digitChar = some d) (n : Nat) :
    ∃ ds, (Nat.toDigits base n).mapM value? = some ds ∧ valueOf base ds = n := by
  induction n using Nat.strongRecOn with
  | ind n ih =>
      rw [Nat.toDigits_eq_if hb]
      by_cases hn : n < base
      · exact ⟨[n], by simp [hn, hv n hn], by simp [valueOf]⟩
      · obtain ⟨ds, hds, hvalue⟩ := ih (n / base) (Nat.div_lt_self (by omega) hb)
        have hlast : value? (n % base).digitChar = some (n % base) :=
          hv _ (Nat.mod_lt n (by omega))
        refine ⟨ds ++ [n % base], ?_, ?_⟩
        · simp [hn, List.mapM_append, hds, hlast]
        · rw [valueOf_append_singleton, hvalue, Nat.div_add_mod]

/-- Every digit of a number has a value. -/
theorem exists_value_of_mem_toDigits {base : Nat} (hb : 1 < base) {value? : Char → Option Nat}
    (hv : ∀ d < base, value? d.digitChar = some d) {n : Nat} {c : Char}
    (hc : c ∈ Nat.toDigits base n) : ∃ d, value? c = some d := by
  induction n using Nat.strongRecOn with
  | ind n ih =>
      rw [Nat.toDigits_eq_if hb] at hc
      by_cases hn : n < base
      · rw [if_pos hn, List.mem_singleton] at hc
        exact ⟨n, hc ▸ hv n hn⟩
      · rw [if_neg hn, List.mem_append, List.mem_singleton] at hc
        rcases hc with hc | rfl
        · exact ih (n / base) (Nat.div_lt_self (by omega) hb) hc
        · exact ⟨_, hv _ (Nat.mod_lt n (by omega))⟩

/-- Numbers above zero start with a digit other than zero. -/
theorem head?_toDigits_ne_zero {n : Nat} (h : n ≠ 0) : (Nat.toDigits 10 n).head? ≠ some '0' := by
  induction n using Nat.strongRecOn with
  | ind n ih =>
      rw [Nat.toDigits_eq_if (by decide)]
      by_cases hn : n < 10
      · rw [if_pos hn, List.head?_cons]
        have hdigits : ∀ d < 10, d ≠ 0 → d.digitChar ≠ '0' := by decide
        simpa using hdigits n hn h
      · have hrest := ih (n / 10) (by omega) (by omega)
        obtain ⟨c, cs, hcs⟩ := List.exists_cons_of_ne_nil (Nat.toDigits_ne_nil (n := n / 10) (b := 10))
        rw [hcs] at hrest
        rw [if_neg hn, hcs]
        exact hrest

/-! ## Fields -/

/-- A hexadecimal digit is neither of the marks between fields. -/
theorem not_mark_of_mem_toDigits {n : Nat} {c : Char} (hc : c ∈ Nat.toDigits 16 n) :
    c ≠ ':' ∧ c ≠ '.' := by
  obtain ⟨d, hd⟩ := exists_value_of_mem_toDigits (by decide) (fun _ => hexValue?_digitChar) hc
  constructor <;> (rintro rfl; simp [hexValue?] at hd)

theorem not_mark_of_mem_toDigits_ten {n : Nat} {c : Char} (hc : c ∈ Nat.toDigits 10 n) :
    c ≠ ':' ∧ c ≠ '.' := by
  obtain ⟨d, hd⟩ := exists_value_of_mem_toDigits (by decide) (fun _ => decimalValue?_digitChar) hc
  constructor <;> (rintro rfl; simp [decimalValue?] at hd)

/-- A printed octet is read back. -/
theorem readOctet?_toDigits {n : Nat} (h : n ≤ 255) : readOctet? (Nat.toDigits 10 n) = some n := by
  obtain ⟨ds, hds, hvalue⟩ := mapM_toDigits (by decide) (fun _ => decimalValue?_digitChar) n
  have hhead : (Nat.toDigits 10 n).length = 1 ∨ (Nat.toDigits 10 n).head? ≠ some '0' := by
    by_cases hn : n = 0
    · exact Or.inl (by simp [hn])
    · exact Or.inr (head?_toDigits_ne_zero hn)
  simp only [readOctet?, hds, hvalue, Option.bind_eq_bind, Option.bind_some]
  rw [if_pos ⟨Nat.toDigits_ne_nil, hhead, h⟩]

/-- A printed word is read back. -/
theorem readWord?_toDigits {n : Nat} (h : n < 2 ^ 16) : readWord? (Nat.toDigits 16 n) = some n := by
  obtain ⟨ds, hds, hvalue⟩ := mapM_toDigits (by decide) (fun _ => hexValue?_digitChar) n
  have hlength : (Nat.toDigits 16 n).length ≤ 4 :=
    (Nat.length_toDigits_le_iff (by decide) (by decide)).2 h
  simp only [readWord?, hds, hvalue, Option.bind_eq_bind, Option.bind_some]
  rw [if_pos ⟨Nat.toDigits_ne_nil, hlength⟩]

/-- **A printed IPv4 address is read back.** -/
theorem readDotted?_dotted (host : BitVec 32) : readDotted? (dotted host) = some host := by
  have hlt := host.isLt
  have hsplit : (dotted host).splitOn '.' =
      [host.toNat / 2 ^ 24, host.toNat / 2 ^ 16 % 256, host.toNat / 2 ^ 8 % 256,
        host.toNat % 256].map (Nat.toDigits 10) := by
    refine List.splitOn_intercalate '.' ?_ (by simp)
    intro field hfield hdot
    obtain ⟨n, -, rfl⟩ := List.mem_map.1 hfield
    exact (not_mark_of_mem_toDigits_ten hdot).2 rfl
  -- Each octet is below 256, and together they are the digits of the address to that base.
  have h0 : readOctet? (Nat.toDigits 10 (host.toNat / 2 ^ 24)) = some (host.toNat / 2 ^ 24) :=
    readOctet?_toDigits (by omega)
  have h1 : readOctet? (Nat.toDigits 10 (host.toNat / 2 ^ 16 % 256)) =
      some (host.toNat / 2 ^ 16 % 256) := readOctet?_toDigits (by omega)
  have h2 : readOctet? (Nat.toDigits 10 (host.toNat / 2 ^ 8 % 256)) =
      some (host.toNat / 2 ^ 8 % 256) := readOctet?_toDigits (by omega)
  have h3 : readOctet? (Nat.toDigits 10 (host.toNat % 256)) = some (host.toNat % 256) :=
    readOctet?_toDigits (by omega)
  have hvalue : valueOf 256 [host.toNat / 2 ^ 24, host.toNat / 2 ^ 16 % 256,
      host.toNat / 2 ^ 8 % 256, host.toNat % 256] = host.toNat := by
    simp only [valueOf, List.foldl_cons, List.foldl_nil]
    omega
  simp only [readDotted?, hsplit, List.map_cons, List.map_nil, List.mapM_cons, List.mapM_nil, h0, h1,
    h2, h3, Option.bind_eq_bind, Option.bind_some, Option.pure_def, hvalue]
  simp

theorem mem_intercalate {α : Type} {a sep : α} {ls : List (List α)}
    (h : a ∈ [sep].intercalate ls) : a = sep ∨ ∃ l ∈ ls, a ∈ l := by
  induction ls with
  | nil => simp at h
  | cons l ls ih =>
      cases ls with
      | nil => exact Or.inr ⟨l, by simp, by simpa using h⟩
      | cons l' ls =>
          rw [List.intercalate_cons_cons, List.mem_append, List.mem_append, List.mem_singleton] at h
          rcases h with (h | h) | h
          · exact Or.inr ⟨l, by simp, h⟩
          · exact Or.inl h
          · rcases ih h with h | ⟨k, hk, h⟩
            · exact Or.inl h
            · exact Or.inr ⟨k, List.mem_cons_of_mem _ hk, h⟩

/-- A printed IPv4 address holds no colon. -/
theorem colon_notMem_dotted (host : BitVec 32) : ':' ∉ dotted host := by
  intro h
  rcases mem_intercalate h with h | ⟨field, hfield, hcolon⟩
  · exact absurd h (by decide)
  · obtain ⟨n, -, rfl⟩ := List.mem_map.1 hfield
    exact (not_mark_of_mem_toDigits_ten hcolon).1 rfl

/-- A printed IPv4 address holds a dot, so it is told from a hexadecimal word. -/
theorem dot_mem_dotted (host : BitVec 32) : '.' ∈ dotted host := by
  simp [dotted, List.intercalate_cons_cons]

/-! ## Gaps -/

theorem splitGap?_cons_of_ne {c : Char} (h : c ≠ ':') (cs : List Char) :
    splitGap? (c :: cs) = (splitGap? cs).map fun (before, after) => (c :: before, after) := by
  rw [splitGap?]
  intro _ hc _
  exact h hc

theorem splitGap?_colon_cons_of_ne {c : Char} (h : c ≠ ':') (cs : List Char) :
    splitGap? (':' :: c :: cs) =
      (splitGap? (c :: cs)).map fun (before, after) => (':' :: before, after) := by
  rw [splitGap?]
  intro _ _ hc
  rw [List.cons.injEq] at hc
  exact h hc.1

/-- A field without colons stands in front of the gap. -/
theorem splitGap?_append {field : List Char} (h : ':' ∉ field) (cs : List Char) :
    splitGap? (field ++ cs) =
      (splitGap? cs).map fun (before, after) => (field ++ before, after) := by
  induction field with
  | nil => simp
  | cons c field ih =>
      rw [List.mem_cons, not_or] at h
      rw [List.cons_append, splitGap?_cons_of_ne (Ne.symm h.1), ih h.2, Option.map_map]
      rfl

/-- **Fields with single colons between them stand in front of the gap.** The fields are not empty,
    so no two of the colons between them come in a row. -/
theorem splitGap?_intercalate_append {fields : List (List Char)}
    (h : ∀ field ∈ fields, field ≠ [] ∧ ':' ∉ field) (cs : List Char) :
    splitGap? ([':'].intercalate fields ++ cs) =
      (splitGap? cs).map fun (before, after) => ([':'].intercalate fields ++ before, after) := by
  induction fields with
  | nil => simp
  | cons field fields ih =>
      rw [List.forall_mem_cons] at h
      cases fields with
      | nil => simpa using splitGap?_append h.1.2 cs
      | cons next fields =>
          have hrest := ih h.2
          -- The next field starts with a character other than a colon.
          obtain ⟨hne, hcolon⟩ := h.2 next (by simp)
          obtain ⟨c, tail, rfl⟩ := List.exists_cons_of_ne_nil hne
          rw [List.mem_cons, not_or] at hcolon
          obtain ⟨rest, hcs⟩ : ∃ rest, [':'].intercalate ((c :: tail) :: fields) = c :: rest := by
            cases fields <;> simp [List.intercalate_cons_cons]
          rw [hcs] at hrest
          rw [List.intercalate_cons_cons, hcs, List.append_assoc, List.append_assoc,
            splitGap?_append h.1.2, List.singleton_append, List.cons_append,
            splitGap?_colon_cons_of_ne (Ne.symm hcolon.1), ← List.cons_append, hrest]
          simp only [Option.map_map]
          congr 1
          funext r
          simp

theorem splitGap?_intercalate {fields : List (List Char)}
    (h : ∀ field ∈ fields, field ≠ [] ∧ ':' ∉ field) : splitGap? ([':'].intercalate fields) = none := by
  have hsplit := splitGap?_intercalate_append h []
  rw [List.append_nil] at hsplit
  rw [hsplit]
  rfl

/-! ## Zero words -/

/-- The words from a position on start with as many zeros as are counted there. -/
theorem take_append_zeros_append_drop (ws : List Nat) (start : Nat) :
    ws.take start ++ List.replicate (zerosFrom ws start) 0 ++ ws.drop (start + zerosFrom ws start) =
      ws := by
  have hzeros : (ws.drop start).takeWhile (· == 0) = List.replicate (zerosFrom ws start) 0 := by
    refine List.eq_replicate_iff.2 ⟨rfl, ?_⟩
    intro w hw
    simpa using List.all_eq_true.1 List.all_takeWhile w hw
  have hrest : (ws.drop start).dropWhile (· == 0) = ws.drop (start + zerosFrom ws start) := by
    have hdrop : (((ws.drop start).takeWhile (· == 0)) ++ (ws.drop start).dropWhile (· == 0)).drop
        ((ws.drop start).takeWhile (· == 0)).length = (ws.drop start).dropWhile (· == 0) :=
      List.drop_left
    rw [List.takeWhile_append_dropWhile, List.drop_drop] at hdrop
    exact hdrop.symm
  rw [← hzeros, ← hrest, List.append_assoc, List.takeWhile_append_dropWhile,
    List.take_append_drop]

/-- The longest run of zero words is as long as the zeros counted at its start. -/
theorem longestZeros_snd (ws : List Nat) :
    (longestZeros ws).2 = 0 ∨ (longestZeros ws).2 = zerosFrom ws (longestZeros ws).1 := by
  have hfold : ∀ (starts : List Nat) (best : Nat × Nat), best.2 = 0 ∨ best.2 = zerosFrom ws best.1 →
      let found := starts.foldl (fun best start =>
        if best.2 < zerosFrom ws start then (start, zerosFrom ws start) else best) best
      found.2 = 0 ∨ found.2 = zerosFrom ws found.1 := by
    intro starts
    induction starts with
    | nil => exact fun _ hbest => hbest
    | cons start starts ih =>
        intro best hbest
        refine ih _ ?_
        by_cases hlonger : best.2 < zerosFrom ws start
        · simp [hlonger]
        · simpa [hlonger] using hbest
  exact hfold _ (0, 0) (Or.inl rfl)

/-- **What is left out is a run of zero words**, of two words at least. -/
theorem zeroGap_eq_some {ws : List Nat} {start length : Nat}
    (h : zeroGap ws = some (start, length)) :
    2 ≤ length ∧ ws.take start ++ List.replicate length 0 ++ ws.drop (start + length) = ws := by
  simp only [zeroGap] at h
  by_cases hlength : 2 ≤ (longestZeros ws).2
  · rw [if_pos hlength, Option.some.injEq, Prod.mk.injEq] at h
    obtain ⟨rfl, rfl⟩ := h
    have hzeros : (longestZeros ws).2 = zerosFrom ws (longestZeros ws).1 :=
      (longestZeros_snd ws).resolve_left (by omega)
    refine ⟨hlength, ?_⟩
    rw [hzeros]
    exact take_append_zeros_append_drop ws _
  · rw [if_neg hlength] at h
    simp at h

/-! ## Addresses -/

theorem length_wordsOf (net : BitVec 96) (host : BitVec 32) : (wordsOf net host).length = 8 := rfl

theorem lt_of_mem_wordsOf {net : BitVec 96} {host : BitVec 32} {w : Nat}
    (h : w ∈ wordsOf net host) : w < 2 ^ 16 := by
  have hhost := host.isLt
  simp only [wordsOf, List.map_cons, List.map_nil, List.cons_append, List.nil_append,
    List.mem_cons, List.not_mem_nil, or_false] at h
  omega

/-- The words of an address make up the address. -/
theorem ofWords_wordsOf (net : BitVec 96) (host : BitVec 32) :
    ofWords (wordsOf net host) = .v6 net host := by
  have hnet : valueOf (2 ^ 16) ((wordsOf net host).take 6) = net.toNat := by
    have hlt := net.isLt
    simp only [wordsOf, List.map_cons, List.map_nil, List.cons_append, List.nil_append,
      List.take_succ_cons, List.take_zero, valueOf, List.foldl_cons, List.foldl_nil]
    omega
  have hhost : valueOf (2 ^ 16) ((wordsOf net host).drop 6) = host.toNat := by
    simp only [wordsOf, List.map_cons, List.map_nil, List.cons_append, List.nil_append,
      List.drop_succ_cons, List.drop_zero, valueOf, List.foldl_cons, List.foldl_nil]
    omega
  simp only [ofWords, hnet, hhost, BitVec.ofNat_toNat, BitVec.setWidth_eq]

theorem mapM_readWord? {ws : List Nat} (h : ∀ w ∈ ws, w < 2 ^ 16) :
    (ws.map (Nat.toDigits 16)).mapM readWord? = some ws := by
  induction ws with
  | nil => rfl
  | cons w ws ih =>
      rw [List.forall_mem_cons] at h
      simp [List.mapM_cons, readWord?_toDigits h.1, ih h.2]

theorem contains_dot_toDigits (n : Nat) : (Nat.toDigits 16 n).contains '.' = false := by
  rw [Bool.eq_false_iff, ne_eq, List.contains_iff_mem]
  exact fun h => (not_mark_of_mem_toDigits h).2 rfl

theorem readFields?_cons {fields : List (List Char)} (h : fields ≠ []) (field : List Char) :
    readFields? (field :: fields) =
      (readWord? field).bind fun word => (readFields? fields).map (word :: ·) := by
  rw [readFields?]
  · cases readWord? field <;> cases readFields? fields <;> rfl
  · exact h

/-- Printed words are read back in front of other fields. -/
theorem readFields?_toDigits_append {ws words : List Nat} {fields : List (List Char)}
    (h : ∀ w ∈ ws, w < 2 ^ 16) (hne : fields ≠ []) (hfields : readFields? fields = some words) :
    readFields? (ws.map (Nat.toDigits 16) ++ fields) = some (ws ++ words) := by
  induction ws with
  | nil => exact hfields
  | cons w ws ih =>
      rw [List.forall_mem_cons] at h
      have hrest : ws.map (Nat.toDigits 16) ++ fields ≠ [] := by simp [hne]
      rw [List.map_cons, List.cons_append, readFields?_cons hrest, readWord?_toDigits h.1, ih h.2]
      rfl

/-- Printed words are read back as fields. -/
theorem readFields?_toDigits {ws : List Nat} (h : ∀ w ∈ ws, w < 2 ^ 16) :
    readFields? (ws.map (Nat.toDigits 16)) = some ws := by
  rcases List.eq_nil_or_concat ws with rfl | ⟨front, last, rfl⟩
  · rfl
  · rw [List.concat_eq_append] at h ⊢
    rw [List.forall_mem_append, List.forall_mem_singleton] at h
    have hlast : readFields? [Nat.toDigits 16 last] = some [last] := by
      rw [readFields?, contains_dot_toDigits, readWord?_toDigits h.2]
      rfl
    rw [List.map_append, List.map_singleton]
    exact readFields?_toDigits_append h.1 (by simp) hlast

/-- Printed words in front of a printed IPv4 address are read back with its two words. -/
theorem readFields?_toDigits_dotted {ws : List Nat} (h : ∀ w ∈ ws, w < 2 ^ 16) (host : BitVec 32) :
    readFields? (ws.map (Nat.toDigits 16) ++ [dotted host]) =
      some (ws ++ [host.toNat / 2 ^ 16, host.toNat % 2 ^ 16]) := by
  have hlast : readFields? [dotted host] = some [host.toNat / 2 ^ 16, host.toNat % 2 ^ 16] := by
    rw [readFields?, if_pos (List.contains_iff_mem.2 (dot_mem_dotted host)), readDotted?_dotted]
    rfl
  exact readFields?_toDigits_append h (by simp) hlast

theorem field_of_mem_toDigits {ws : List Nat} {field : List Char}
    (h : field ∈ ws.map (Nat.toDigits 16)) : field ≠ [] ∧ ':' ∉ field := by
  obtain ⟨w, -, rfl⟩ := List.mem_map.1 h
  exact ⟨Nat.toDigits_ne_nil, fun hc => (not_mark_of_mem_toDigits hc).1 rfl⟩

/-- The fields of a text are the fields that it was put together from. -/
theorem colonFields_intercalate {fields : List (List Char)}
    (h : ∀ field ∈ fields, field ≠ [] ∧ ':' ∉ field) :
    colonFields ([':'].intercalate fields) = fields := by
  cases fields with
  | nil => rfl
  | cons field fields =>
      have hne : [':'].intercalate (field :: fields) ≠ [] := by
        have hfield := (h field (by simp)).1
        cases fields with
        | nil => simpa using hfield
        | cons _ _ => simp [List.intercalate_cons_cons]
      rw [colonFields, if_neg hne]
      exact List.splitOn_intercalate ':' (fun l hl => (h l hl).2) (by simp)

/-- The printed IPv4 address behind a gap is read back with the word in front of it, if the gap
    leaves one. -/
theorem readFields?_embedded {net : BitVec 96} {host : BitVec 32} {start length : Nat}
    (h : embedsDotted (wordsOf net host) start length = true) :
    let right := (wordsOf net host).drop (start + length)
    readFields? (colonFields ([':'].intercalate
      ((right.take (right.length - 2)).map (Nat.toDigits 16) ++ [dotted host]))) = some right := by
  intro right
  have hright : right = right.take (right.length - 2) ++
      [host.toNat / 2 ^ 16, host.toNat % 2 ^ 16] := by
    simp only [embedsDotted, Bool.and_eq_true, Bool.or_eq_true, decide_eq_true_eq] at h
    obtain ⟨rfl, rfl | ⟨rfl, -⟩⟩ := h <;> rfl
  have hwords : ∀ w ∈ right.take (right.length - 2), w < 2 ^ 16 :=
    fun w hw => lt_of_mem_wordsOf (List.mem_of_mem_drop (List.mem_of_mem_take hw))
  have hfields : ∀ field ∈ (right.take (right.length - 2)).map (Nat.toDigits 16) ++ [dotted host],
      field ≠ [] ∧ ':' ∉ field := by
    intro field hfield
    rcases List.mem_append.1 hfield with hfield | hfield
    · exact field_of_mem_toDigits hfield
    · obtain rfl := List.mem_singleton.1 hfield
      exact ⟨List.ne_nil_of_mem (dot_mem_dotted host), colon_notMem_dotted host⟩
  rw [colonFields_intercalate hfields, readFields?_toDigits_dotted hwords host, ← hright]

/-- **A printed IPv6 address is read back**, with or without a gap, and with or without an IPv4
    address at its end. -/
theorem readColons?_colons (net : BitVec 96) (host : BitVec 32) :
    readColons? (colons net host) = some (.v6 net host) := by
  have hwords : ∀ w ∈ wordsOf net host, w < 2 ^ 16 := fun w => lt_of_mem_wordsOf
  have hlength := length_wordsOf net host
  cases hgap : zeroGap (wordsOf net host) with
  | none =>
      have hsplit : splitGap? (hexWords (wordsOf net host)) = none :=
        splitGap?_intercalate fun _ => field_of_mem_toDigits
      have hfields : (hexWords (wordsOf net host)).splitOn ':' =
          (wordsOf net host).map (Nat.toDigits 16) := by
        refine List.splitOn_intercalate ':' (fun l hl => (field_of_mem_toDigits hl).2) ?_
        intro hnil
        simp [wordsOf] at hnil
      simp only [colons, hgap, readColons?, hsplit, hfields, readFields?_toDigits hwords,
        Option.bind_eq_bind, Option.bind_some, if_pos hlength, ofWords_wordsOf]
  | some gap =>
      obtain ⟨start, length⟩ := gap
      obtain ⟨htwo, hgapped⟩ := zeroGap_eq_some hgap
      have hleft : ∀ w ∈ (wordsOf net host).take start, w < 2 ^ 16 :=
        fun w hw => hwords w (List.mem_of_mem_take hw)
      have hright : ∀ w ∈ (wordsOf net host).drop (start + length), w < 2 ^ 16 :=
        fun w hw => hwords w (List.mem_of_mem_drop hw)
      have hknown : ((wordsOf net host).take start).length +
          ((wordsOf net host).drop (start + length)).length + length = 8 := by
        have := congrArg List.length hgapped
        simp only [List.length_append, List.length_replicate, hlength] at this
        omega
      -- Both forms of the tail read back as the words behind the gap.
      obtain ⟨tail, hcolons, htail⟩ : ∃ tail,
          colons net host = hexWords ((wordsOf net host).take start) ++ ':' :: ':' :: tail ∧
          readFields? (colonFields tail) = some ((wordsOf net host).drop (start + length)) := by
        by_cases hembeds : embedsDotted (wordsOf net host) start length = true
        · exact ⟨_, by simp [colons, hgap, hembeds], readFields?_embedded hembeds⟩
        · refine ⟨hexWords ((wordsOf net host).drop (start + length)), ?_, ?_⟩
          · simp [colons, hgap, hembeds]
          · rw [hexWords, colonFields_intercalate fun _ => field_of_mem_toDigits,
              readFields?_toDigits hright]
      have hsplit : splitGap? (colons net host) =
          some (hexWords ((wordsOf net host).take start), tail) := by
        rw [hcolons, hexWords, splitGap?_intercalate_append fun _ => field_of_mem_toDigits]
        simp [splitGap?]
      have hread : (colonFields (hexWords ((wordsOf net host).take start))).mapM readWord? =
          some ((wordsOf net host).take start) := by
        rw [hexWords, colonFields_intercalate fun _ => field_of_mem_toDigits, mapM_readWord? hleft]
      simp only [readColons?, hsplit, hread, htail, Option.bind_eq_bind, Option.bind_some]
      rw [if_pos (by omega), ← ofWords_wordsOf, show 8 - (((wordsOf net host).take start).length +
        ((wordsOf net host).drop (start + length)).length) = length by omega, hgapped]

theorem colon_mem_colons (net : BitVec 96) (host : BitVec 32) : ':' ∈ colons net host := by
  cases hgap : zeroGap (wordsOf net host) with
  | none =>
      simp only [colons, hgap]
      simp [hexWords, wordsOf, List.intercalate_cons_cons]
  | some gap => simp [colons, hgap]

/-- The family of a printed address is the address's own. -/
theorem Family.ofText_text (a : Address) : Family.ofText a.text = a.family := by
  cases a with
  | v4 host =>
      have hcolon := colon_notMem_dotted host
      simp [Family.ofText, Address.text, Address.family, hcolon]
  | v6 net host =>
      have hcolon := colon_mem_colons net host
      simp [Family.ofText, Address.text, Address.family, hcolon]

/-- **A printed address is read back.** -/
theorem Address.read?_text (a : Address) : Address.read? a.text = some a := by
  rw [Address.read?, Family.ofText_text]
  cases a with
  | v4 host => simp [Address.readAs?, Address.family, Address.text, readDotted?_dotted]
  | v6 net host => simp [Address.readAs?, Address.family, Address.text, readColons?_colons]

end Multicast
