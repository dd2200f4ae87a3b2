/-! # Pieces of a list

A list that is cut at marks falls into pieces, which may be empty. -/

namespace PowerDisasm

def pieces {α : Type} (isMark : α → Bool) : List α → List (List α)
  | [] => [[]]
  | item :: rest =>
      if isMark item then [] :: pieces isMark rest else (pieces isMark rest).modifyHead (item :: ·)

example : pieces (· = 0) [1, 2, 0, 3, 0] = [[1, 2], [3], []] := by decide

end PowerDisasm
