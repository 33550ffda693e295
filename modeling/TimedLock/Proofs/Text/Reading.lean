import TimedLock.Text.Integer
import TimedLock.Text.Split

/-!
# Trimming, cutting and reading numerals

What the text functions leave of a text that is put together from known parts.

Trimming takes away what is put around a text (`trimBy_padded`), and what it leaves neither begins
nor ends with anything that it takes away (`tight_trimBy`). Pieces come apart where they were put
together (`pieces_intercalate`), and a text is cut at the last separator, which none follows
(`cutAtLast?_eq_some_iff`). A whole number reads back from its decimal digits, as long as there are
not more than a numeral may have (`readInteger_toString`).
-/

namespace TimedLock.Text

/-! ## Trimming -/

section Trimming

variable {α : Type} {p : α → Bool} {left right xs : List α}

/-- Neither the first nor the last element satisfies `p`. -/
structure Tight (p : α → Bool) (xs : List α) : Prop where
  head : ∀ x ∈ xs.head?, p x = false
  last : ∀ x ∈ xs.getLast?, p x = false

theorem of_mem_head?_dropWhile {x : α} (h : x ∈ (xs.dropWhile p).head?) : p x = false := by
  have hnot := List.head?_dropWhile_not p xs
  rwa [Option.mem_def.1 h] at hnot

theorem dropWhile_eq_self (h : ∀ x ∈ xs.head?, p x = false) : xs.dropWhile p = xs := by
  cases xs with
  | nil => rfl
  | cons x rest => simp [List.dropWhile, h x rfl]

theorem tight_trimBy (p : α → Bool) (xs : List α) : Tight p (trimBy p xs) where
  head := by
    intro x hx
    rw [trimBy, List.head?_reverse] at hx
    -- what is left at the back ends where the text without its front does
    obtain ⟨dropped, hdropped⟩ := List.dropWhile_suffix p (l := (xs.dropWhile p).reverse)
    have hlast : (xs.dropWhile p).reverse.getLast? = some x := by
      rw [← hdropped, List.getLast?_append, Option.mem_def.1 hx, Option.some_or]
    rw [List.getLast?_reverse] at hlast
    exact of_mem_head?_dropWhile hlast
  last := by
    intro x hx
    rw [trimBy, List.getLast?_reverse] at hx
    exact of_mem_head?_dropWhile hx

theorem mem_of_mem_trimBy {x : α} (h : x ∈ trimBy p xs) : x ∈ xs := by
  have hback := (List.dropWhile_sublist p).subset (List.mem_reverse.1 h)
  exact (List.dropWhile_sublist p).subset (List.mem_reverse.1 hback)

/-- Trimming takes away what satisfies `p` around a text, and no more. -/
theorem trimBy_padded (hleft : ∀ x ∈ left, p x = true) (hright : ∀ x ∈ right, p x = true)
    (h : Tight p xs) : trimBy p (left ++ xs ++ right) = xs := by
  have hreversed : ∀ x ∈ right.reverse, p x = true := fun x hx => hright x (List.mem_reverse.1 hx)
  rw [trimBy, List.append_assoc, List.dropWhile_append_of_pos hleft]
  cases xs with
  | nil =>
    rw [List.nil_append, (dropWhile_eq_nil_iff p right).2 hright]
    rfl
  | cons x rest =>
    have hfront : ((x :: rest) ++ right).dropWhile p = (x :: rest) ++ right :=
      dropWhile_eq_self h.head
    have hback : (x :: rest).reverse.dropWhile p = (x :: rest).reverse :=
      dropWhile_eq_self fun y hy => h.last y (by rwa [List.head?_reverse] at hy)
    rw [hfront, List.reverse_append, List.dropWhile_append_of_pos hreversed, hback,
      List.reverse_reverse]

theorem trimBy_eq_self_iff : trimBy p xs = xs ↔ Tight p xs := by
  refine ⟨fun h => h ▸ tight_trimBy p xs, fun h => ?_⟩
  have hpadded : trimBy p ([] ++ xs ++ []) = xs := trimBy_padded (by simp) (by simp) h
  rwa [List.nil_append, List.append_nil] at hpadded

end Trimming

/-! ## Cutting -/

section Cutting

variable {sep : Char} {cs before after : List Char}

/-- Pieces without separators come apart where they were put together. -/
theorem pieces_intercalate {ps : List (List Char)} (hne : ps ≠ []) (h : ∀ p ∈ ps, sep ∉ p) :
    pieces sep ([sep].intercalate ps) = ps := by
  induction ps with
  | nil => exact absurd rfl hne
  | cons p rest ih =>
    have hp : sep ∉ p := h p List.mem_cons_self
    cases rest with
    | nil => simpa using pieces_eq_singleton hp
    | cons q others =>
      have hrest := ih (List.cons_ne_nil q others) fun r hr => h r (List.mem_cons_of_mem p hr)
      rw [List.intercalate_cons_cons, List.append_assoc, List.singleton_append,
        pieces_append_cons hp, hrest]

/-- A text with a separator has a last one. -/
theorem exists_last_separator (h : sep ∈ cs) :
    ∃ before after, cs = before ++ sep :: after ∧ sep ∉ after := by
  obtain ⟨after, before, hcut, hafter⟩ := List.eq_append_cons_of_mem (List.mem_reverse.2 h)
  refine ⟨before.reverse, after.reverse, ?_, by simpa using hafter⟩
  rw [← List.reverse_reverse cs, hcut]
  simp

theorem cutAtLast?_eq_none_iff : cutAtLast? sep cs = none ↔ sep ∉ cs := by
  refine ⟨fun h hmem => ?_, cutAtLast?_eq_none⟩
  obtain ⟨before, after, rfl, hafter⟩ := exists_last_separator hmem
  rw [cutAtLast?_append_cons before hafter] at h
  cases h

theorem cutAtLast?_eq_some_iff :
    cutAtLast? sep cs = some (before, after) ↔ cs = before ++ sep :: after ∧ sep ∉ after := by
  refine ⟨fun h => ?_, ?_⟩
  · have hmem : sep ∈ cs := by
      refine Decidable.byContradiction fun hnot => ?_
      rw [cutAtLast?_eq_none hnot] at h
      cases h
    obtain ⟨before', after', rfl, hafter⟩ := exists_last_separator hmem
    rw [cutAtLast?_append_cons before' hafter] at h
    cases h
    exact ⟨rfl, hafter⟩
  · rintro ⟨rfl, hafter⟩
    exact cutAtLast?_append_cons before hafter

end Cutting

/-! ## Numerals -/

section Numerals

variable {cs : List Char} {c : Char}

theorem toNat_of_isDigit (h : c.isDigit = true) : 48 ≤ c.toNat ∧ c.toNat ≤ 57 :=
  Char.isDigit_iff_toNat.1 h

theorem asciiDigit?_of_isDigit (h : c.isDigit = true) : asciiDigit? c = some (c.toNat - 48) := by
  obtain ⟨hlow, hhigh⟩ := toNat_of_isDigit h
  simp [asciiDigit?, hlow, hhigh]

/-- A run of digits is scanned to its end. -/
theorem scanDigits_of_isDigit (h : ∀ c ∈ cs, c.isDigit = true) (digits : List Nat) :
    scanDigits false digits cs = some (digits.reverse ++ cs.map (·.toNat - 48), []) := by
  induction cs generalizing digits with
  | nil => simp [scanDigits]
  | cons c rest ih =>
    have hc : asciiDigit? c = some (c.toNat - 48) :=
      asciiDigit?_of_isDigit (h c List.mem_cons_self)
    have hrest := ih (fun d hd => h d (List.mem_cons_of_mem c hd)) ((c.toNat - 48) :: digits)
    simp [scanDigits, hc, hrest]

theorem ofDigits_eq_ofDigitChars (cs : List Char) :
    ofDigits (cs.map (·.toNat - 48)) = Nat.ofDigitChars 10 cs 0 := by
  rw [ofDigits, List.foldl_map, Nat.ofDigitChars_eq_foldl]
  rfl

theorem plainNumeral_of_ascii (h : ∀ c ∈ cs, c.toNat < 127) : plainNumeral cs = cs := by
  unfold plainNumeral
  exact (List.map_congr_left fun c hc => if_pos (h c hc)).trans (List.map_id' cs)

/-- A numeral may begin with a minus sign. -/
def minus (negative : Bool) : List Char := if negative then ['-'] else []

theorem splitSign_minus (negative : Bool) (hne : cs ≠ []) (h : ∀ c ∈ cs, c.isDigit = true) :
    splitSign (minus negative ++ cs) = (negative, cs) := by
  cases negative with
  | true => rfl
  | false =>
    obtain ⟨c, rest, rfl⟩ := List.exists_cons_of_ne_nil hne
    have hc := toNat_of_isDigit (h c List.mem_cons_self)
    have hminus : c ≠ '-' := by
      rintro rfl
      exact absurd hc.1 (by decide)
    have hplus : c ≠ '+' := by
      rintro rfl
      exact absurd hc.1 (by decide)
    show splitSign (c :: rest) = (false, c :: rest)
    unfold splitSign
    split
    · rename_i heq
      exact absurd (List.cons.inj heq).1 hminus
    · rename_i heq
      exact absurd (List.cons.inj heq).1 hplus
    · rfl

/-- Digits are read, with or without a minus sign. -/
theorem readInteger_of_isDigit (negative : Bool) (hne : cs ≠ [])
    (h : ∀ c ∈ cs, c.isDigit = true) (hlength : cs.length ≤ maxIntegerDigits) :
    readInteger (minus negative ++ cs) = .ok (if negative then -(Nat.ofDigitChars 10 cs 0 : Int)
      else Nat.ofDigitChars 10 cs 0) := by
  have hmarks : ∀ c ∈ minus negative ++ cs, c = '-' ∨ c.isDigit = true := by
    intro c hc
    rcases List.mem_append.1 hc with hc | hc
    · cases negative with
      | true => exact .inl (List.mem_singleton.1 hc)
      | false => cases hc
    · exact .inr (h c hc)
  have hascii : ∀ c ∈ minus negative ++ cs, c.toNat < 127 ∧ isAsciiBlank c = false := by
    intro c hc
    rcases hmarks c hc with rfl | hdigit
    · decide
    · obtain ⟨hlow, hhigh⟩ := toNat_of_isDigit hdigit
      simp only [isAsciiBlank]
      constructor
      · omega
      · simp
        omega
  have htight : Tight isAsciiBlank (minus negative ++ cs) :=
    ⟨fun c hc => (hascii c (List.mem_of_mem_head? hc)).2,
      fun c hc => (hascii c (List.mem_of_mem_getLast? hc)).2⟩
  unfold readInteger
  rw [plainNumeral_of_ascii fun c hc => (hascii c hc).1, trimBy_eq_self_iff.2 htight,
    splitSign_minus negative hne h]
  simp only [scanDigits_of_isDigit h, List.reverse_nil, List.nil_append, List.length_map,
    if_neg (Nat.not_lt.2 hlength), ofDigits_eq_ofDigitChars]
  simp [hne]

/-- The decimal text of a whole number. -/
theorem toList_toString (n : Int) :
    (toString n).toList = minus (n < 0) ++ Nat.toDigits 10 n.natAbs := by
  cases n with
  | ofNat m =>
    show (Nat.repr m).toList = _
    simp [Nat.repr_eq_ofList_toDigits, minus]
  | negSucc m =>
    show ("-" ++ Nat.repr (m + 1)).toList = _
    simp [Nat.repr_eq_ofList_toDigits, minus]

theorem isDigit_of_mem_toDigits {n : Nat} (h : c ∈ Nat.toDigits 10 n) : c.isDigit = true :=
  Nat.isDigit_of_mem_toDigits (by decide) (by decide) h

/-- **A whole number reads back from its decimal text.** -/
theorem readInteger_toString {n : Int}
    (h : (toString n.natAbs).length ≤ maxIntegerDigits) :
    readInteger (toString n).toList = .ok n := by
  have hlength : (Nat.toDigits 10 n.natAbs).length ≤ maxIntegerDigits := by
    rwa [Nat.toString_eq_ofList_toDigits, String.length_ofList] at h
  rw [toList_toString, readInteger_of_isDigit _ Nat.toDigits_ne_nil
    (fun _ => isDigit_of_mem_toDigits) hlength, Nat.ofDigitChars_ten_toDigits]
  congr 1
  by_cases hn : n < 0
  · rw [if_pos (decide_eq_true hn)]
    omega
  · rw [if_neg (by simpa using hn)]
    omega

end Numerals

end TimedLock.Text
