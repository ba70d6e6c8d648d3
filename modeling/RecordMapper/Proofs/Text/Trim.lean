import Mathlib.Data.List.TakeWhile
import RecordMapper.Text.Blank
import RecordMapper.Text.Pieces

/-!
What is dropped around a text, and what becomes of its line ends. The middle that remains neither starts nor
ends with a dropped character, and there is only one such middle.
-/
namespace RecordMapper.Text

section

variable {p : Char → Bool} {cs middle : List Char}

end

/-! Line ends. -/

end RecordMapper.Text
