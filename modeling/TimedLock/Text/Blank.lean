/-!
# Blank characters

Names, settings and connect strings are trimmed before they are used. What counts as blank is
Unicode white space together with the four information separators U+001C to U+001F. Zero-width
characters such as U+200B and U+FEFF are not blank.

`trim` is stated on lists of characters, so that the parsers of this library can be too.
`trim_eq_nil_iff` says that only blank text is trimmed away whole.
-/

namespace TimedLock.Text

/-- Unicode white space and the separators U+001C to U+001F. -/
def isBlank (c : Char) : Bool :=
  let n := c.toNat
  (9 ≤ n && n ≤ 13) || (0x1C ≤ n && n ≤ 0x20) || n == 0x85 || n == 0xA0 || n == 0x1680
    || (0x2000 ≤ n && n ≤ 0x200A) || n == 0x2028 || n == 0x2029 || n == 0x202F || n == 0x205F
    || n == 0x3000

/-- The six blank characters that bytes and plain ASCII numerals are trimmed of. -/
def isAsciiBlank (c : Char) : Bool :=
  let n := c.toNat
  (9 ≤ n && n ≤ 13) || n == 0x20

/-- Drops what satisfies `p` at both ends. -/
def trimBy {α : Type} (p : α → Bool) (xs : List α) : List α :=
  ((xs.dropWhile p).reverse.dropWhile p).reverse

/-- Drops the blank characters at both ends. -/
def trim (cs : List Char) : List Char := trimBy isBlank cs

/-- `trim` on text. -/
def trimText (s : String) : String := String.ofList (trim s.toList)

theorem dropWhile_eq_nil_iff {α : Type} (p : α → Bool) (xs : List α) :
    xs.dropWhile p = [] ↔ ∀ x ∈ xs, p x = true := by
  induction xs with
  | nil => simp
  | cons x xs ih => by_cases h : p x = true <;> simp [List.dropWhile, h, ih]

/-- Only blank text is trimmed away whole. -/
theorem trim_eq_nil_iff (cs : List Char) : trim cs = [] ↔ ∀ c ∈ cs, isBlank c = true := by
  unfold trim trimBy
  rw [List.reverse_eq_nil_iff, dropWhile_eq_nil_iff]
  constructor
  · intro h
    by_cases hd : cs.dropWhile isBlank = []
    · exact (dropWhile_eq_nil_iff _ _).1 hd
    · obtain ⟨c, r, hc⟩ := List.exists_cons_of_ne_nil hd
      have hb := h c (by simp [hc])
      have hh := List.head?_dropWhile_not isBlank cs
      simp [hc, hb] at hh
  · intro h c hc
    rw [(dropWhile_eq_nil_iff _ _).2 h] at hc
    simp at hc

end TimedLock.Text
