import Std.Data.HashSet.Basic
set_option autoImplicit false

namespace Wiring

/-- The set with all of the values in it, and for each of them whether it was new. -/
def insertEach {α : Type} [BEq α] [Hashable α] (seen : Std.HashSet α) :
    List α → Std.HashSet α × List Bool
  | [] => (seen, [])
  | x :: xs =>
      let (present, seen) := seen.containsThenInsert x
      let (seen, fresh) := insertEach seen xs
      (seen, (!present) :: fresh)

end Wiring
