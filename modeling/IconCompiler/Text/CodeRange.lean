/-! # Code point ranges

    A property of characters is given by the closed ranges of the code points
    that have it. -/

namespace IconCompiler.Text

/-- Whether `n` lies in one of the closed `ranges`. -/
def inRanges (ranges : List (Nat × Nat)) (n : Nat) : Bool :=
  ranges.any fun r => r.1 ≤ n && n ≤ r.2

end IconCompiler.Text
