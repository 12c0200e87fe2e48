/-! Tab stops. -/
namespace CWriter.Text

/-- Replaces each tab by the blanks that lead to the next multiple of `stop`, the first
character standing in column `column`. Every other character fills one column. -/
def expandTabs (stop column : Nat) : List Char → List Char
  | [] => []
  | c :: rest =>
    if c = '\t' then
      let n := stop - column % stop
      List.replicate n ' ' ++ expandTabs stop (column + n) rest
    else c :: expandTabs stop (column + 1) rest

end CWriter.Text
