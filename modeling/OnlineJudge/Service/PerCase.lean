import OnlineJudge.Judge.Result
import Mathlib.Data.List.Sort

/-!
# The per-case document

`build_per_case_json` turns a result into a JSON array with one flat object for each
test case. Only the order of the cases and the values matter here: the library sorts
the members of an object by name.
-/

namespace OnlineJudge

namespace Service

open Judge

inductive JsonValue where
  | null
  | bool (value : Bool)
  | int (value : ℤ)
  | string (value : Bytes)
  deriving DecidableEq, Repr

/-- A JSON object whose members are scalars. -/
abbrev JsonObject := List (String × JsonValue)

/-- `nlohmann::json::dump` on an array of objects; `none` is a thrown exception. -/
abbrev Dump := List JsonObject → Option Bytes

/-- The members that a case carries for its verdict other than `AC`. -/
def diagnosticMembers (task : JudgeTask) (item : TestcaseResult) : JsonObject :=
  [("reason", .string item.termination.name)] ++
    (if item.sanitizerError then [("sanitizer_error", .bool true)] else []) ++
    [("exit_code", .int item.exitCode), ("term_signal", .int item.termSignal)] ++
    (if item.message ≠ [] then [("message", .string item.message)] else []) ++
    [("actual_output", .string item.actualOutput)] ++
    (if item.stderrOutput ≠ [] then [("stderr_output", .string item.stderrOutput)] else []) ++
    (if item.status = .WA ∧ 0 ≤ item.index then
      match task.testcases[item.index.toNat]? with
      | some testcase =>
          [("input", .string testcase.input), ("expected_output", .string testcase.output)]
      | none => []
    else [])

def caseMembers (task : JudgeTask) (item : TestcaseResult) : JsonObject :=
  [("index", .int item.index), ("status", .string item.status.name),
    ("time_ms", .int item.timeMs),
    ("memory_kb", if 0 < item.memoryKb then .int item.memoryKb else .null)] ++
    (if item.globalDeadlineHit then [("global_deadline_hit", .bool true)] else []) ++
    (if item.outputTruncated then [("output_truncated", .bool true)] else []) ++
    (if item.status ≠ .AC then diagnosticMembers task item else [])

def buildPerCaseJson (task : JudgeTask) (result : JudgeResult) : List JsonObject :=
  result.cases.map (caseMembers task)

section Serialisation

def hexDigit (value : UInt8) : UInt8 := if value < 10 then 48 + value else 87 + value

/-- A byte of a string, with the escapes of JSON. -/
def escapedByte (byte : UInt8) : Bytes :=
  if byte = 8 then Bytes.ofString "\\b"
  else if byte = 9 then Bytes.ofString "\\t"
  else if byte = 10 then Bytes.ofString "\\n"
  else if byte = 12 then Bytes.ofString "\\f"
  else if byte = 13 then Bytes.ofString "\\r"
  else if byte = 34 then Bytes.ofString "\\\""
  else if byte = 92 then Bytes.ofString "\\\\"
  else if byte ≤ 31 then Bytes.ofString "\\u00" ++ [hexDigit (byte / 16), hexDigit (byte % 16)]
  else [byte]

def quoted (text : Bytes) : Bytes := [34] ++ text.flatMap escapedByte ++ [34]

def JsonValue.dumped : JsonValue → Bytes
  | .null => Bytes.ofString "null"
  | .bool true => Bytes.ofString "true"
  | .bool false => Bytes.ofString "false"
  | .int value => Bytes.ofInt value
  | .string text => quoted text

/-- The members of an object are ordered by name. -/
def dumpedObject (object : JsonObject) : Bytes :=
  let members := object.insertionSort fun left right => left.1 ≤ right.1
  [123] ++ List.intercalate [44]
    (members.map fun member =>
      quoted (Bytes.ofString member.1) ++ [58] ++ member.2.dumped) ++ [125]

/-- The value is not a string of bytes that are no text. -/
def JsonValue.IsText : JsonValue → Prop
  | .string value => Bytes.ValidUtf8 value
  | _ => True

instance : DecidablePred JsonValue.IsText
  | .string value => inferInstanceAs (Decidable (Bytes.ValidUtf8 value))
  | .null | .bool _ | .int _ => isTrue trivial

/-- Every string in the document is text. -/
def IsTextDocument (document : List JsonObject) : Prop :=
  ∀ object ∈ document, ∀ member ∈ object, member.2.IsText

instance : DecidablePred IsTextDocument := fun document =>
  inferInstanceAs (Decidable (∀ object ∈ document, ∀ member ∈ object, member.2.IsText))

/-- `dump()` with the strict handler: it throws on a string that is not UTF-8, and on nothing
else. -/
def StrictDump (dump : Dump) : Prop :=
  ∀ document, (dump document).isSome ↔ IsTextDocument document

/-- `dump()` without indentation, by the strict handler. -/
def dumpStrict : Dump := fun document =>
  if IsTextDocument document then
    some ([91] ++ List.intercalate [44] (document.map dumpedObject) ++ [93])
  else none

theorem dumpStrict_strict : StrictDump dumpStrict := by
  intro document
  unfold dumpStrict
  split <;> simp [*]

end Serialisation

end Service

end OnlineJudge
