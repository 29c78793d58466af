import ImageFlow.Kernels.Arithmetic
import ImageFlow.Kernels.Bitwise
import ImageFlow.Kernels.Pattern
import ImageFlow.Kernels.Smoothing

/-!
# Standard kernels

The kernels that are always at hand, in the order in which they are registered.
-/

namespace ImageFlow.Kernels

/-- The standard kernels, over a given box filter. -/
def standard (filter : BoxFilter := .means) : List Kernel :=
  [copyImage, copyArray, fill, check, absDiff, add, subtract, bitAnd, bitOr, bitXor, bitNot,
    box3x3 filter]

/-- Name of the target that hosts the standard kernels. -/
def defaultTargetName : String := "khronos.c_model"

end ImageFlow.Kernels
