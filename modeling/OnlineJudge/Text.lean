import Mathlib.Data.Int.Notation
import Mathlib.Data.List.DropRight
import Mathlib.Data.List.TakeWhile

/-!
# Byte strings

The source handles every text as a `std::string`, a sequence of bytes without a
promised encoding: program output, compiler diagnostics and database columns may
hold any bytes. UTF-8 matters at one place only, where JSON is serialised.
-/

namespace OnlineJudge

/-- A `std::string`. -/
abbrev Bytes := List UInt8

namespace Bytes

/-- The bytes of a string literal of the source. -/
def ofString (text : String) : Bytes := text.toByteArray.data.toList

/-- `std::to_string` of an integer. -/
def ofInt (value : ℤ) : Bytes := ofString (toString value)

/-- The bytes are the UTF-8 encoding of some text. -/
def ValidUtf8 (bytes : Bytes) : Prop := bytes.toByteArray.IsValidUTF8

instance : DecidablePred ValidUtf8 := fun bytes =>
  inferInstanceAs (Decidable bytes.toByteArray.IsValidUTF8)

theorem toByteArray_ofString (text : String) :
    (ofString text).toByteArray = text.toByteArray := by
  apply ByteArray.ext
  simp [ofString]

@[simp]
theorem validUtf8_ofString (text : String) : ValidUtf8 (ofString text) := by
  rw [ValidUtf8, toByteArray_ofString]
  exact text.isValidUTF8

@[simp]
theorem validUtf8_ofInt (value : ℤ) : ValidUtf8 (ofInt value) := validUtf8_ofString _

@[simp]
theorem validUtf8_nil : ValidUtf8 [] := ByteArray.isValidUTF8_empty

theorem ValidUtf8.append {left right : Bytes} (leftValid : ValidUtf8 left)
    (rightValid : ValidUtf8 right) : ValidUtf8 (left ++ right) := by
  rw [ValidUtf8, List.toByteArray_append]
  exact ByteArray.IsValidUTF8.append leftValid rightValid

/-- A whole number of characters in front neither helps nor harms. -/
theorem validUtf8_append_iff_right {left right : Bytes} (valid : ValidUtf8 left) :
    ValidUtf8 (left ++ right) ↔ ValidUtf8 right := by
  rw [ValidUtf8, ValidUtf8, List.toByteArray_append]
  rcases valid with ⟨characters, encoded⟩
  rw [encoded]
  clear encoded
  induction characters with
  | nil => simp
  | cons character rest ih =>
      rw [← List.singleton_append, List.utf8Encode_append, ByteArray.append_assoc,
        ByteArray.isValidUTF8_utf8Encode_singleton_append_iff, ih]

/-- Nor does one behind: the place where it begins is the end of a character. -/
theorem validUtf8_append_iff_left {left right : Bytes} (valid : ValidUtf8 right) :
    ValidUtf8 (left ++ right) ↔ ValidUtf8 left := by
  refine ⟨fun whole => ?_, fun leftValid => leftValid.append valid⟩
  rw [ValidUtf8, List.toByteArray_append] at whole
  let text : String := String.ofByteArray _ whole
  let position : String.Pos.Raw := ⟨left.toByteArray.size⟩
  have bytes_eq : text.toByteArray = left.toByteArray ++ right.toByteArray := rfl
  have size_eq : text.utf8ByteSize = left.toByteArray.size + right.toByteArray.size :=
    ByteArray.size_append
  have within : position ≤ text.rawEndPos := by
    rw [String.Pos.Raw.le_iff, String.byteIdx_rawEndPos, size_eq]
    exact Nat.le_add_right _ _
  have boundary : String.Pos.Raw.IsValid text position := by
    rw [String.Pos.Raw.isValid_iff_isValidUTF8_extract_utf8ByteSize, size_eq, bytes_eq,
      ByteArray.extract_append_eq_right rfl rfl]
    exact ⟨within, valid⟩
  have before := (String.Pos.Raw.isValid_iff_isValidUTF8_extract_zero.mp boundary).2
  rw [bytes_eq, ByteArray.extract_append_eq_left rfl] at before
  exact before

@[simp]
theorem validUtf8_ofString_append (text : String) (bytes : Bytes) :
    ValidUtf8 (ofString text ++ bytes) ↔ ValidUtf8 bytes :=
  validUtf8_append_iff_right (validUtf8_ofString text)

@[simp]
theorem validUtf8_ofInt_append (value : ℤ) (bytes : Bytes) :
    ValidUtf8 (ofInt value ++ bytes) ↔ ValidUtf8 bytes :=
  validUtf8_append_iff_right (validUtf8_ofInt value)

/-- `Statement::column_text`: the text of a column as a C string, up to the first zero byte. -/
def columnText (stored : Bytes) : Bytes := stored.takeWhile (· ≠ 0)

theorem columnText_eq_self {stored : Bytes} (noZero : 0 ∉ stored) :
    columnText stored = stored := by
  rw [columnText, List.takeWhile_eq_self_iff]
  intro byte mem
  have nonzero : byte ≠ 0 := fun isZero => noZero (isZero ▸ mem)
  simpa using nonzero

theorem columnText_cons {byte : UInt8} (nonzero : byte ≠ 0) (stored : Bytes) :
    columnText (byte :: stored) = byte :: columnText stored := by
  rw [columnText, List.takeWhile_cons_of_pos (by simpa using nonzero), ← columnText]

theorem columnText_append {front : Bytes} (noZero : 0 ∉ front) (stored : Bytes) :
    columnText (front ++ stored) = front ++ columnText stored := by
  induction front with
  | nil => rfl
  | cons byte front ih =>
      simp only [List.mem_cons, not_or] at noZero
      rw [List.cons_append, columnText_cons (Ne.symm noZero.1), ih noZero.2, List.cons_append]

theorem columnText_append_of_mem {front : Bytes} (zero : 0 ∈ front) (stored : Bytes) :
    columnText (front ++ stored) = columnText front := by
  induction front with
  | nil => exact absurd zero List.not_mem_nil
  | cons byte front ih =>
      by_cases isZero : byte = 0
      · simp [columnText, isZero]
      · rw [List.cons_append, columnText_cons isZero, columnText_cons isZero,
          ih ((List.mem_cons.mp zero).resolve_left (Ne.symm isZero))]

theorem mem_of_mem_columnText {stored : Bytes} {byte : UInt8} (mem : byte ∈ columnText stored) :
    byte ∈ stored :=
  (List.takeWhile_prefix _).subset mem

theorem zero_not_mem_columnText (stored : Bytes) : 0 ∉ columnText stored := by
  intro zero
  simpa using List.mem_takeWhile_imp zero

/-- A text is read back as it is stored exactly when it has no zero byte. -/
theorem columnText_eq_self_iff {stored : Bytes} : columnText stored = stored ↔ 0 ∉ stored :=
  ⟨fun same => same ▸ zero_not_mem_columnText stored, columnText_eq_self⟩

/-- `std::isspace` in the "C" locale. -/
def isSpace (byte : UInt8) : Bool := byte = 32 || (9 ≤ byte && byte ≤ 13)

/-- `std::tolower` in the "C" locale. -/
def toLower (byte : UInt8) : UInt8 := if 65 ≤ byte ∧ byte ≤ 90 then byte + 32 else byte

/-- `std::toupper` in the "C" locale. -/
def toUpper (byte : UInt8) : UInt8 := if 97 ≤ byte ∧ byte ≤ 122 then byte - 32 else byte

def trim (text : Bytes) : Bytes :=
  ((text.dropWhile isSpace).reverse.dropWhile isSpace).reverse

/-- What is left begins and ends with no white space. -/
@[simp]
theorem trim_trim (text : Bytes) : trim (trim text) = trim text := by
  have front_clean : (trim text).dropWhile isSpace = trim text := by
    rw [List.dropWhile_eq_self_iff]
    intro nonempty
    have within : trim text <+: text.dropWhile isSpace := List.rdropWhile_prefix _ _
    have first_eq := within.getElem nonempty
    have nonspace := List.dropWhile_get_zero_not isSpace text
      (Nat.lt_of_lt_of_le nonempty within.length_le)
    rw [first_eq]
    simpa using nonspace
  calc trim (trim text) = ((trim text).dropWhile isSpace).rdropWhile isSpace := rfl
    _ = (trim text).rdropWhile isSpace := by rw [front_clean]
    _ = trim text := List.rdropWhile_idempotent _ _

theorem mem_of_mem_trim {text : Bytes} {byte : UInt8} (mem : byte ∈ trim text) :
    byte ∈ text := by
  have inFront : byte ∈ text.dropWhile isSpace :=
    (List.rdropWhile_prefix isSpace (text.dropWhile isSpace)).subset mem
  exact (List.dropWhile_suffix _).subset inFront

/-- `split_tags`: the parts between commas, trimmed, without the empty ones. -/
def splitTags (tags : Bytes) : List Bytes :=
  ((tags.splitOn 44).map trim).filter (· ≠ [])

def joinTags (tags : List Bytes) : Bytes := List.intercalate [44] tags

end Bytes

end OnlineJudge
