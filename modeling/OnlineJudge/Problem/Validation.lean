import OnlineJudge.Library.Delimited
import OnlineJudge.Problem.ListQuery
import OnlineJudge.Service.Validation

/-!
# The bodies of the problem requests

`problem/validation.cpp`: the bodies that create and change a problem. Tags are kept in
one column as a text with commas between them, so a tag holds no comma itself.
-/

namespace OnlineJudge

namespace Problem

open Db Service

def minTimeLimitMs : ℤ := 1

def maxTimeLimitMs : ℤ := 60000

def defaultTimeLimitMs : ℤ := 2000

def minMemoryLimitKb : ℤ := 1

def maxMemoryLimitKb : ℤ := 1048576

def defaultMemoryLimitKb : ℤ := 65536

def maxTitleBytes : ℕ := 200

def maxDescriptionBytes : ℕ := 64 * 1024

def maxTagBytes : ℕ := 30

def maxTags : ℕ := 20

def maxSamples : ℕ := 50

def maxSampleFieldBytes : ℕ := 64 * 1024

def parseTitle : Json → Except Bytes Bytes
  | .string value =>
      let title := Bytes.trim value
      if title = [] then .error (Bytes.ofString "title 不能为空")
      else if maxTitleBytes < title.length then
        .error (Bytes.ofString "title 过长（最多 " ++ Bytes.ofInt maxTitleBytes ++
          Bytes.ofString " 字节）")
      else .ok title
  | _ => .error (Bytes.ofString "title 须为字符串")

def parseDescription : Json → Except Bytes Bytes
  | .string value =>
      if maxDescriptionBytes < value.length then
        .error (Bytes.ofString "description 过长（最多 " ++ Bytes.ofInt maxDescriptionBytes ++
          Bytes.ofString " 字节）")
      else .ok value
  | _ => .error (Bytes.ofString "description 须为字符串")

def parseDifficulty : Json → Except Bytes Difficulty
  | .string value =>
      if value = Bytes.ofString "easy" then .ok .easy
      else if value = Bytes.ofString "medium" then .ok .medium
      else if value = Bytes.ofString "hard" then .ok .hard
      else .error (Bytes.ofString "非法难度：仅支持 easy/medium/hard")
  | _ => .error (Bytes.ofString "difficulty 须为字符串")

/-- The tags one after the other; `out` are the ones accepted so far. -/
def parseTagItems : List Json → (out : List Bytes) → Except Bytes (List Bytes)
  | [], out => .ok out
  | .string value :: rest, out =>
      let tag := Bytes.trim value
      if tag = [] then .error (Bytes.ofString "标签不能为空")
      else if maxTagBytes < tag.length then
        .error (Bytes.ofString "标签过长（最多 " ++ Bytes.ofInt maxTagBytes ++
          Bytes.ofString " 字节）")
      else if 44 ∈ tag then .error (Bytes.ofString "标签不能包含逗号")
      else if tag ∈ out then .error (Bytes.ofString "标签重复：" ++ tag)
      else parseTagItems rest (out ++ [tag])
  | _ :: _, _ => .error (Bytes.ofString "tags 须为字符串数组")

def parseTags : Json → Except Bytes (List Bytes)
  | .array items =>
      if maxTags < items.length then
        .error (Bytes.ofString "tags 数量过多（最多 " ++ Bytes.ofInt maxTags ++
          Bytes.ofString " 个）")
      else parseTagItems items []
  | _ => .error (Bytes.ofString "tags 须为字符串数组")

def badSample : Bytes := Bytes.ofString "样例须为含字符串字段 input 与 output 的对象"

def parseSample : Json → Except Bytes SampleInput
  | .object members =>
      match Json.member members "input", Json.member members "output" with
      | some (.string input), some (.string output) =>
          if maxSampleFieldBytes < input.length ∨ maxSampleFieldBytes < output.length then
            .error (Bytes.ofString "样例字段过长（最多 " ++ Bytes.ofInt maxSampleFieldBytes ++
              Bytes.ofString " 字节）")
          else .ok { input := input, output := output }
      | _, _ => .error badSample
  | _ => .error badSample

def parseSamples : Json → Except Bytes (List SampleInput)
  | .array items =>
      if maxSamples < items.length then
        .error (Bytes.ofString "samples 数量过多（最多 " ++ Bytes.ofInt maxSamples ++
          Bytes.ofString " 组）")
      else items.mapM parseSample
  | _ => .error (Bytes.ofString "samples 须为对象数组")

def parseVisibleFlag : Json → Except Bytes Bool
  | .bool value => .ok value
  | _ => .error (Bytes.ofString "visible 须为布尔值")

def parseTimeLimit (value : Json) : Except Bytes ℤ :=
  parseIntInRange value minTimeLimitMs maxTimeLimitMs "time_limit_ms"

def parseMemoryLimit (value : Json) : Except Bytes ℤ :=
  parseIntInRange value minMemoryLimitKb maxMemoryLimitKb "memory_limit_kb"

/-- A field that must be there. -/
def required {α : Type} (members : List (Bytes × Json)) (field : String)
    (parse : Json → Except Bytes α) : Except Bytes α :=
  match Json.member members field with
  | none => .error (missingField field)
  | some value => parse value

def parseCreateProblem : Json → Except Bytes ProblemData
  | .object members => do
      let title ← required members "title" parseTitle
      let difficulty ← required members "difficulty" parseDifficulty
      let description ← optional members "description" parseDescription
      let tags ← optional members "tags" parseTags
      let timeLimitMs ← optional members "time_limit_ms" parseTimeLimit
      let memoryLimitKb ← optional members "memory_limit_kb" parseMemoryLimit
      let visible ← optional members "visible" parseVisibleFlag
      let samples ← optional members "samples" parseSamples
      return {
        title := title
        description := description.getD []
        difficulty := difficulty
        tags := tags.getD []
        timeLimitMs := timeLimitMs.getD defaultTimeLimitMs
        memoryLimitKb := memoryLimitKb.getD defaultMemoryLimitKb
        visible := visible.getD true
        samples := samples.getD [] }
  | _ => .error notAnObject

/-- `ProblemPatch::empty`. -/
def patchIsEmpty (patch : ProblemPatch) : Bool :=
  patch.title.isNone && patch.description.isNone && patch.difficulty.isNone &&
    patch.tags.isNone && patch.timeLimitMs.isNone && patch.memoryLimitKb.isNone &&
    patch.visible.isNone && patch.samples.isNone

def parseUpdateProblem : Json → Except Bytes ProblemPatch
  | .object members => do
      let title ← optional members "title" parseTitle
      let description ← optional members "description" parseDescription
      let difficulty ← optional members "difficulty" parseDifficulty
      let tags ← optional members "tags" parseTags
      let timeLimitMs ← optional members "time_limit_ms" parseTimeLimit
      let memoryLimitKb ← optional members "memory_limit_kb" parseMemoryLimit
      let visible ← optional members "visible" parseVisibleFlag
      let samples ← optional members "samples" parseSamples
      let patch : ProblemPatch :=
        { title, description, difficulty, tags, timeLimitMs, memoryLimitKb, visible, samples }
      if patchIsEmpty patch then .error (Bytes.ofString "没有可更新的字段")
      else return patch
  | _ => .error notAnObject

section Tags

/-- A list of tags as it may stand in the column: every tag is a text without white space at
its ends and without a comma, and none is there twice. -/
structure CleanTags (tags : List Bytes) : Prop where
  nonempty : ∀ tag ∈ tags, tag ≠ []
  trimmed : ∀ tag ∈ tags, Bytes.trim tag = tag
  noComma : ∀ tag ∈ tags, 44 ∉ tag
  distinct : tags.Nodup

variable {items : List Json} {out tags : List Bytes} {value : Json}

theorem cleanTags_nil : CleanTags [] where
  nonempty := by simp
  trimmed := by simp
  noComma := by simp
  distinct := List.nodup_nil

theorem CleanTags.append {tag : Bytes} (clean : CleanTags out) (nonempty : tag ≠ [])
    (trimmed : Bytes.trim tag = tag) (noComma : 44 ∉ tag) (new : tag ∉ out) :
    CleanTags (out ++ [tag]) where
  nonempty := by
    intro other mem
    rcases List.mem_append.mp mem with old | isNew
    · exact clean.nonempty other old
    · rwa [List.mem_singleton.mp isNew]
  trimmed := by
    intro other mem
    rcases List.mem_append.mp mem with old | isNew
    · exact clean.trimmed other old
    · rwa [List.mem_singleton.mp isNew]
  noComma := by
    intro other mem
    rcases List.mem_append.mp mem with old | isNew
    · exact clean.noComma other old
    · rwa [List.mem_singleton.mp isNew]
  distinct := by
    rw [List.nodup_append]
    refine ⟨clean.distinct, List.nodup_singleton _, ?_⟩
    intro other mem same isSame
    rw [List.mem_singleton.mp isSame]
    rintro rfl
    exact new mem

theorem parseTagItems_clean (clean : CleanTags out)
    (parsed : parseTagItems items out = .ok tags) : CleanTags tags := by
  induction items generalizing out with
  | nil =>
      rcases Except.ok.inj parsed with rfl
      exact clean
  | cons item rest ih =>
      cases item with
      | string value =>
          simp only [parseTagItems] at parsed
          split at parsed
          · cases parsed
          rename_i nonempty
          split at parsed
          · cases parsed
          split at parsed
          · cases parsed
          rename_i noComma
          split at parsed
          · cases parsed
          rename_i new
          exact ih (clean.append nonempty (Bytes.trim_trim value) noComma new) parsed
      | null | bool | integer | float | array | object => cases parsed

theorem parseTags_clean (parsed : parseTags value = .ok tags) : CleanTags tags := by
  unfold parseTags at parsed
  split at parsed
  · split at parsed
    · cases parsed
    · exact parseTagItems_clean cleanTags_nil parsed
  · cases parsed

/-- Texts that stay apart in the column. -/
structure SeparateTags (tags : List Bytes) : Prop where
  nonempty : ∀ tag ∈ tags, tag ≠ []
  trimmed : ∀ tag ∈ tags, Bytes.trim tag = tag
  noComma : ∀ tag ∈ tags, 44 ∉ tag

theorem CleanTags.separate (clean : CleanTags tags) : SeparateTags tags :=
  ⟨clean.nonempty, clean.trimmed, clean.noComma⟩

theorem separateTags_of_optional {members : List (Bytes × Json)} {parsed : Option (List Bytes)}
    (accepted : optional members "tags" parseTags = .ok parsed) :
    ∀ tags ∈ parsed, SeparateTags tags := by
  rintro tags rfl
  rcases parsed_of_optional accepted with ⟨value, given⟩
  exact (parseTags_clean given).separate

theorem parseCreateProblem_separate {body : Json} {data : ProblemData}
    (accepted : parseCreateProblem body = .ok data) : SeparateTags data.tags := by
  unfold parseCreateProblem at accepted
  split at accepted
  · rcases bind_eq_ok accepted with ⟨title, -, accepted⟩
    rcases bind_eq_ok accepted with ⟨difficulty, -, accepted⟩
    rcases bind_eq_ok accepted with ⟨description, -, accepted⟩
    rcases bind_eq_ok accepted with ⟨tags, hasTags, accepted⟩
    rcases bind_eq_ok accepted with ⟨timeLimitMs, -, accepted⟩
    rcases bind_eq_ok accepted with ⟨memoryLimitKb, -, accepted⟩
    rcases bind_eq_ok accepted with ⟨isVisible, -, accepted⟩
    rcases bind_eq_ok accepted with ⟨samples, -, accepted⟩
    rcases Except.ok.inj accepted with rfl
    cases tags with
    | none => exact cleanTags_nil.separate
    | some tags => exact separateTags_of_optional hasTags tags rfl
  · cases accepted

theorem parseUpdateProblem_separate {body : Json} {patch : ProblemPatch}
    (accepted : parseUpdateProblem body = .ok patch) : ∀ tags ∈ patch.tags, SeparateTags tags := by
  unfold parseUpdateProblem at accepted
  split at accepted
  · rcases bind_eq_ok accepted with ⟨title, -, accepted⟩
    rcases bind_eq_ok accepted with ⟨description, -, accepted⟩
    rcases bind_eq_ok accepted with ⟨difficulty, -, accepted⟩
    rcases bind_eq_ok accepted with ⟨tags, hasTags, accepted⟩
    rcases bind_eq_ok accepted with ⟨timeLimitMs, -, accepted⟩
    rcases bind_eq_ok accepted with ⟨memoryLimitKb, -, accepted⟩
    rcases bind_eq_ok accepted with ⟨isVisible, -, accepted⟩
    rcases bind_eq_ok accepted with ⟨samples, -, accepted⟩
    dsimp only at accepted
    split at accepted
    · cases accepted
    · rcases Except.ok.inj accepted with rfl
      exact separateTags_of_optional hasTags
  · cases accepted

theorem SeparateTags.map_trim (separate : SeparateTags tags) : tags.map Bytes.trim = tags := by
  conv_rhs => rw [← List.map_id tags]
  exact List.map_congr_left separate.trimmed

theorem SeparateTags.filter_nonempty (separate : SeparateTags tags) :
    tags.filter (· ≠ []) = tags := by
  rw [List.filter_eq_self]
  intro tag mem
  simpa using separate.nonempty tag mem

/-- The text of the column is taken apart into the tags it was made from. -/
theorem splitTags_joinTags (separate : SeparateTags tags) :
    Bytes.splitTags (Bytes.joinTags tags) = tags := by
  by_cases empty : tags = []
  · rw [empty]
    rfl
  · have parts_eq : (Bytes.joinTags tags).splitOn 44 = tags :=
      List.splitOn_intercalate 44 separate.noComma empty
    rw [Bytes.splitTags, parts_eq, separate.map_trim, separate.filter_nonempty]

/-- Whatever text is taken apart, the parts stay apart when they are joined again. -/
theorem splitTags_separate (text : Bytes) : SeparateTags (Bytes.splitTags text) where
  nonempty := by
    intro tag mem
    simpa using (List.mem_filter.mp mem).2
  trimmed := by
    intro tag mem
    rcases List.mem_map.mp (List.mem_of_mem_filter mem) with ⟨part, -, rfl⟩
    exact Bytes.trim_trim part
  noComma := by
    intro tag mem comma
    rcases List.mem_map.mp (List.mem_of_mem_filter mem) with ⟨part, partMem, rfl⟩
    exact Library.not_mem_of_mem_splitOn partMem (Bytes.mem_of_mem_trim comma)

theorem mem_of_mem_splitTags {text tag : Bytes} {byte : UInt8} (tagMem : tag ∈ Bytes.splitTags text)
    (mem : byte ∈ tag) : byte ∈ text := by
  rcases List.mem_map.mp (List.mem_of_mem_filter tagMem) with ⟨part, partMem, rfl⟩
  exact Library.mem_of_mem_splitOn partMem (Bytes.mem_of_mem_trim mem)

/-- A text of the column `tags`: that of some tags. -/
def IsTagText (text : Bytes) : Prop := Bytes.joinTags (Bytes.splitTags text) = text

instance : DecidablePred IsTagText := fun text =>
  inferInstanceAs (Decidable (Bytes.joinTags (Bytes.splitTags text) = text))

theorem SeparateTags.isTagText (separate : SeparateTags tags) :
    IsTagText (Bytes.joinTags tags) := by
  rw [IsTagText, splitTags_joinTags separate]

/-- Reading the column as a C string and writing it again keeps a text without a zero byte only. -/
theorem IsTagText.rewritten_iff {text : Bytes} (isTagText : IsTagText text) :
    Bytes.joinTags (Bytes.splitTags (Bytes.columnText text)) = text ↔ 0 ∉ text := by
  constructor
  · intro same zero
    rw [← same] at zero
    rcases Library.mem_of_mem_intercalate zero with isComma | ⟨tag, tagMem, inTag⟩
    · cases isComma
    · exact Bytes.zero_not_mem_columnText text (mem_of_mem_splitTags tagMem inTag)
  · intro noZero
    rw [Bytes.columnText_eq_self noZero]
    exact isTagText

end Tags

end Problem

end OnlineJudge
