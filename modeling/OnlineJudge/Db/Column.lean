import OnlineJudge.Text

/-!
# Text columns

A text is bound with its length and read back as a C string. The two agree as long as
the text has no zero byte.
-/

namespace OnlineJudge

namespace Db

/-- What a text column stores after `Statement::bind`: the length is cast to `int`, and SQLite takes
a negative length for that of a C string. -/
def bindText (value : Bytes) : Bytes :=
  if value.length % 4294967296 < 2147483648 then value.take (value.length % 4294967296)
  else value.takeWhile (· ≠ 0)

theorem bindText_eq_self {value : Bytes} (short : value.length < 2147483648) :
    bindText value = value := by
  have exact : value.length % 4294967296 = value.length := by omega
  rw [bindText, exact, if_pos short, List.take_length]

/-- A short text is read back as it was bound exactly when it has no zero byte. -/
theorem columnText_bindText_iff {value : Bytes} (short : value.length < 2147483648) :
    Bytes.columnText (bindText value) = value ↔ 0 ∉ value := by
  rw [bindText_eq_self short]
  exact Bytes.columnText_eq_self_iff

end Db

end OnlineJudge
