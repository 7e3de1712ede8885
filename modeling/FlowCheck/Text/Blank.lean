/-!
# Blanks

The characters with the Unicode property `White_Space`, and texts without the blanks at their
ends.  A zero width space is no blank.
-/

namespace FlowCheck
namespace Text

/-- The characters of Unicode `White_Space`. -/
def isBlank (c : Char) : Bool :=
  let n := c.toNat
  (9 ≤ n && n ≤ 13) || n == 0x20 || n == 0x85 || n == 0xA0 || n == 0x1680 ||
    (0x2000 ≤ n && n ≤ 0x200A) || n == 0x2028 || n == 0x2029 || n == 0x202F || n == 0x205F ||
    n == 0x3000

/-- The text without the blanks in front. -/
def trimStart (cs : List Char) : List Char := cs.dropWhile isBlank

/-- The text without the blanks at its end. -/
def trimEnd (cs : List Char) : List Char := (cs.reverse.dropWhile isBlank).reverse

/-- The text without the blanks at either end. -/
def trim (cs : List Char) : List Char := trimEnd (trimStart cs)

/-! ## Small lemmas -/

@[simp] theorem trim_nil : trim [] = [] := rfl

theorem head?_trimStart (cs : List Char) : ∀ c ∈ (trimStart cs).head?, isBlank c = false := by
  intro c hc
  induction cs with
  | nil => simp [trimStart] at hc
  | cons d ds ih =>
    unfold trimStart at *
    by_cases hd : isBlank d = true
    · exact ih (by simpa [List.dropWhile, hd] using hc)
    · simp only [List.dropWhile, hd, List.head?_cons, Option.mem_def, Option.some.injEq] at hc
      simpa [← hc] using hd

end Text
end FlowCheck
