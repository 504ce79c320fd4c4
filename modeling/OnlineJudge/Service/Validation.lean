import OnlineJudge.Db.Column
import OnlineJudge.Service.ProblemAdmin

/-!
# Accepted texts

`validate_source_code` and the bodies of the test-case requests. A JSON string may carry
any character, U+0000 included; none of the checks refuses it. What they do bound is the
length, far below what the cast of a length to `int` could harm.
-/

namespace OnlineJudge

namespace Service

open Db

def maxSourceBytes : ℕ := 64 * 1024

def maxTestcaseTextBytes : ℕ := 64 * 1024

def minTestcaseOrd : ℤ := 0

def validateSourceCode (code : Bytes) : Except Bytes Unit :=
  if maxSourceBytes < code.length then
    .error (Bytes.ofString "源码过长：最大允许 " ++ Bytes.ofInt maxSourceBytes ++
      Bytes.ofString " 字节")
  else if code.any fun byte => !Bytes.isSpace byte then .ok ()
  else .error (Bytes.ofString "源码不能为空")

/-- A value of `nlohmann::json`; numbers with a fraction keep no more than that they are such. -/
inductive Json where
  | null
  | bool (value : Bool)
  | integer (value : ℤ)
  | float
  | string (value : Bytes)
  | array (items : List Json)
  | object (members : List (Bytes × Json))

/-- The member of an object. -/
def Json.member (members : List (Bytes × Json)) (name : String) : Option Json :=
  (members.find? (·.1 = Bytes.ofString name)).map (·.2)

def outOfRange (field : String) (min max : ℤ) : Bytes :=
  Bytes.ofString field ++ Bytes.ofString " 超出允许范围 [" ++ Bytes.ofInt min ++
    Bytes.ofString ", " ++ Bytes.ofInt max ++ Bytes.ofString "]"

def parseIntInRange (value : Json) (min max : ℤ) (field : String) : Except Bytes ℤ :=
  match value with
  | .integer parsed =>
      if parsed < min ∨ max < parsed then .error (outOfRange field min max) else .ok parsed
  | _ => .error (Bytes.ofString field ++ Bytes.ofString " 须为整数")

def parseText (value : Json) (field : String) : Except Bytes Bytes :=
  match value with
  | .string text =>
      if maxTestcaseTextBytes < text.length then
        .error (Bytes.ofString field ++ Bytes.ofString " 过长（最多 " ++
          Bytes.ofInt maxTestcaseTextBytes ++ Bytes.ofString " 字节）")
      else .ok text
  | _ => .error (Bytes.ofString field ++ Bytes.ofString " 须为字符串")

def missingField (field : String) : Bytes :=
  Bytes.ofString "缺少必填字段：" ++ Bytes.ofString field

/-- A field that must be there. -/
def requireText (members : List (Bytes × Json)) (field : String) : Except Bytes Bytes :=
  match Json.member members field with
  | none => .error (missingField field)
  | some value => parseText value field

/-- A field that may be absent. -/
def optional {α : Type} (members : List (Bytes × Json)) (field : String)
    (parse : Json → Except Bytes α) : Except Bytes (Option α) :=
  match Json.member members field with
  | none => .ok none
  | some value => (parse value).map some

def notAnObject : Bytes := Bytes.ofString "请求体必须是 JSON 对象"

/-- The order number of a test case, if there is one. -/
def optionalOrd (members : List (Bytes × Json)) : Except Bytes (Option ℤ) :=
  optional members "ord" fun value => parseIntInRange value minTestcaseOrd maxTestcaseOrd "ord"

def parseCreateTestcase : Json → Except Bytes TestcaseData
  | .object members => do
      let input ← requireText members "input"
      let output ← requireText members "output"
      let ord ← optionalOrd members
      return { input := input, output := output, ord := ord }
  | _ => .error notAnObject

def parseUpdateTestcase : Json → Except Bytes TestcasePatch
  | .object members => do
      let input ← optional members "input" fun value => parseText value "input"
      let output ← optional members "output" fun value => parseText value "output"
      let ord ← optionalOrd members
      if input = none ∧ output = none ∧ ord = none then
        .error (Bytes.ofString "没有可更新的字段")
      else return { input := input, output := output, ord := ord }
  | _ => .error notAnObject

/-- A text that passes the checks of its request. -/
inductive AcceptedText : Bytes → Prop where
  | source {code : Bytes} (valid : validateSourceCode code = .ok ()) : AcceptedText code
  | createInput {body : Json} {data : TestcaseData} (parsed : parseCreateTestcase body = .ok data) :
      AcceptedText data.input
  | createOutput {body : Json} {data : TestcaseData}
      (parsed : parseCreateTestcase body = .ok data) : AcceptedText data.output
  | updateInput {body : Json} {patch : TestcasePatch} {text : Bytes}
      (parsed : parseUpdateTestcase body = .ok patch) (given : patch.input = some text) :
      AcceptedText text
  | updateOutput {body : Json} {patch : TestcasePatch} {text : Bytes}
      (parsed : parseUpdateTestcase body = .ok patch) (given : patch.output = some text) :
      AcceptedText text

section Inversion

variable {α β : Type} {members : List (Bytes × Json)} {field : String} {text : Bytes}

theorem bind_eq_ok {x : Except Bytes α} {f : α → Except Bytes β} {result : β}
    (bound : x >>= f = .ok result) : ∃ value, x = .ok value ∧ f value = .ok result := by
  cases x with
  | error message => cases bound
  | ok value => exact ⟨value, rfl, bound⟩

theorem parseText_length {value : Json} (parsed : parseText value field = .ok text) :
    text.length ≤ maxTestcaseTextBytes := by
  unfold parseText at parsed
  split at parsed
  · split at parsed
    case isTrue => cases parsed
    case isFalse fits =>
      rcases Except.ok.inj parsed with rfl
      exact not_lt.mp fits
  · cases parsed

theorem requireText_length (parsed : requireText members field = .ok text) :
    text.length ≤ maxTestcaseTextBytes := by
  unfold requireText at parsed
  split at parsed
  · cases parsed
  · exact parseText_length parsed

/-- What an optional field holds was parsed. -/
theorem parsed_of_optional {parse : Json → Except Bytes α} {value : α}
    (parsed : optional members field parse = .ok (some value)) :
    ∃ json, parse json = .ok value := by
  unfold optional at parsed
  split at parsed
  · cases parsed
  case h_2 json _ =>
    cases given : parse json with
    | error message =>
        rw [given] at parsed
        cases parsed
    | ok inner =>
        rw [given] at parsed
        rcases Except.ok.inj parsed with ⟨⟩
        exact ⟨json, given⟩

theorem optionalText_length
    (parsed : optional members field (fun value => parseText value field) = .ok (some text)) :
    text.length ≤ maxTestcaseTextBytes := by
  rcases parsed_of_optional parsed with ⟨json, given⟩
  exact parseText_length given

theorem parseCreateTestcase_length {body : Json} {data : TestcaseData}
    (parsed : parseCreateTestcase body = .ok data) :
    data.input.length ≤ maxTestcaseTextBytes ∧ data.output.length ≤ maxTestcaseTextBytes := by
  unfold parseCreateTestcase at parsed
  split at parsed
  · rcases bind_eq_ok parsed with ⟨input, hasInput, parsed⟩
    rcases bind_eq_ok parsed with ⟨output, hasOutput, parsed⟩
    rcases bind_eq_ok parsed with ⟨ord, -, parsed⟩
    rcases Except.ok.inj parsed with rfl
    exact ⟨requireText_length hasInput, requireText_length hasOutput⟩
  · cases parsed

theorem parseUpdateTestcase_length {body : Json} {patch : TestcasePatch}
    (parsed : parseUpdateTestcase body = .ok patch) :
    (∀ text, patch.input = some text → text.length ≤ maxTestcaseTextBytes) ∧
      ∀ text, patch.output = some text → text.length ≤ maxTestcaseTextBytes := by
  unfold parseUpdateTestcase at parsed
  split at parsed
  · rcases bind_eq_ok parsed with ⟨input, hasInput, parsed⟩
    rcases bind_eq_ok parsed with ⟨output, hasOutput, parsed⟩
    rcases bind_eq_ok parsed with ⟨ord, -, parsed⟩
    split at parsed
    · cases parsed
    · rcases Except.ok.inj parsed with rfl
      refine ⟨?_, ?_⟩
      · rintro text rfl
        exact optionalText_length hasInput
      · rintro text rfl
        exact optionalText_length hasOutput
  · cases parsed

theorem validateSourceCode_length {code : Bytes} (valid : validateSourceCode code = .ok ()) :
    code.length ≤ maxSourceBytes := by
  unfold validateSourceCode at valid
  split at valid
  case isTrue => cases valid
  case isFalse fits => exact not_lt.mp fits

/-- No accepted text is longer than 64 KiB. -/
theorem AcceptedText.length_le (accepted : AcceptedText text) : text.length ≤ 64 * 1024 := by
  cases accepted with
  | source valid => exact validateSourceCode_length valid
  | createInput parsed => exact (parseCreateTestcase_length parsed).1
  | createOutput parsed => exact (parseCreateTestcase_length parsed).2
  | updateInput parsed given => exact (parseUpdateTestcase_length parsed).1 text given
  | updateOutput parsed given => exact (parseUpdateTestcase_length parsed).2 text given

end Inversion

/-- An accepted text is read back from the database as it was bound exactly when it has no zero
byte. -/
theorem accepted_text_reads_back_iff {text : Bytes} (accepted : AcceptedText text) :
    Bytes.columnText (bindText text) = text ↔ 0 ∉ text := by
  refine columnText_bindText_iff ?_
  have fits := accepted.length_le
  omega

def smallProgram : Bytes := Bytes.ofString "#include <cstdio>\nint main() \x7b return 0; \x7d\n"

theorem accepted_text_reads_back_iff_program :
    Bytes.columnText (bindText smallProgram) = smallProgram :=
  (accepted_text_reads_back_iff (AcceptedText.source rfl)).mpr (by decide)

/-- A source with a zero byte is accepted and comes back cut off. -/
theorem accepted_text_cut_off :
    ¬∀ text, AcceptedText text → Bytes.columnText (bindText text) = text := by
  intro claim
  have same := claim [120, 0, 121] (AcceptedText.source rfl)
  revert same
  decide

end Service

end OnlineJudge
