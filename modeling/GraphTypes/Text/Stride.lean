/-!
# Tables of characters

Unicode properties are long lists of code points with much regularity: runs of neighbours, and
alphabets in which every other character is a capital. A `Stride` is one such run, a `Shift` a run
whose characters are all moved by the same distance; a property or a mapping is a list of them.
-/

namespace GraphTypes.Text

/-- Every `step`-th code point from `first` to `last`. -/
structure Stride where
  first : Nat
  last : Nat
  step : Nat
  deriving Repr

namespace Stride

/-- Whether a code point lies on the stride. -/
def contains (s : Stride) (n : Nat) : Bool :=
  s.first ≤ n && n ≤ s.last && (n - s.first) % s.step == 0

/-- Whether a code point lies on one of several strides. -/
def anyContains (strides : List Stride) (n : Nat) : Bool :=
  strides.any (·.contains n)

end Stride

/-- The code points of a stride, each sent `offset` places further. -/
structure Shift where
  stride : Stride
  offset : Int
  deriving Repr

namespace Shift

/-- Where the first shift that reaches `n` sends it; `n` itself if none does. -/
def move (shifts : List Shift) (n : Nat) : Nat :=
  match shifts.find? (·.stride.contains n) with
  | some s => (n + s.offset).toNat
  | none => n

end Shift

end GraphTypes.Text
