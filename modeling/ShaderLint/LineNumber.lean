/-
Numbers of lines.

Lines are counted from one, and the type says so. Whoever counts from nothing gives the number of
lines before the line instead.
-/

set_option autoImplicit false

namespace ShaderLint

/-- The number of a line, from one. -/
structure LineNumber where
  val : Nat
  pos : 1 ≤ val
  deriving DecidableEq, Repr

namespace LineNumber

/-- The number of the first line. -/
def first : LineNumber := ⟨1, Nat.le_refl 1⟩

/-- The number of the line that so many lines precede. -/
def preceded (linesBefore : Nat) : LineNumber :=
  ⟨linesBefore + 1, Nat.le_add_left 1 linesBefore⟩

/-- A number as the number of a line, unless it is zero. -/
def ofNat? (n : Nat) : Option LineNumber := if h : 1 ≤ n then some ⟨n, h⟩ else none

/-- Line numbers of one value are one. -/
theorem eq_of_val_eq {m n : LineNumber} (h : m.val = n.val) : m = n := by
  cases m; cases n; cases h; rfl

end LineNumber

end ShaderLint
