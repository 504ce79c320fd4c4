import OnlineJudge.Text

/-!
# The parameters of a problem list

`problem/list_query.cpp`, and the page parser of `user/admin_user_validation.cpp` that
repeats the one found here. A parameter that is missing is an empty text.
-/

namespace OnlineJudge

def isValidDifficulty (difficulty : Bytes) : Bool :=
  difficulty = Bytes.ofString "easy" ∨ difficulty = Bytes.ofString "medium" ∨
    difficulty = Bytes.ofString "hard"

/-- `escape_like`: puts a backslash before a backslash, `%` and `_`. -/
def escapeLike (text : Bytes) : Bytes :=
  text.flatMap fun byte =>
    if byte = 92 ∨ byte = 37 ∨ byte = 95 then [92, byte] else [byte]

def titleLikePattern (keyword : Bytes) : Bytes := [37] ++ escapeLike keyword ++ [37]

def tagMatchNeedle (tag : Bytes) : Bytes := [44] ++ tag ++ [44]

section Pages

/-- The digits without leading zeros; the last digit stays. -/
def dropLeadingZeros : Bytes → Bytes
  | first :: next :: rest =>
      if first = 48 then dropLeadingZeros (next :: rest) else first :: next :: rest
  | digits => digits

def decimalValue (digits : Bytes) : ℤ :=
  digits.foldl (fun value digit => value * 10 + (digit.toNat - 48 : ℤ)) 0

def pageNotPositive : Bytes := Bytes.ofString "page 必须为正整数"

def pageTooLarge (maxPage : ℤ) : Bytes :=
  Bytes.ofString "page 超出允许范围（最大 " ++ Bytes.ofInt maxPage ++ Bytes.ofString "）"

/-- A page number in decimal digits from 1 on; the empty text is the first page. -/
def parsePageUpTo (maxPage : ℤ) (text : Bytes) : Except Bytes ℤ :=
  let trimmed := Bytes.trim text
  if trimmed = [] then .ok 1
  else if trimmed.any fun byte => byte < 48 || 57 < byte then .error pageNotPositive
  else
    let digits := dropLeadingZeros trimmed
    -- Eight digits are out of range, whatever they are; the value below stays small.
    if 7 < digits.length then .error (pageTooLarge maxPage)
    else if decimalValue digits < 1 then .error pageNotPositive
    else if maxPage < decimalValue digits then .error (pageTooLarge maxPage)
    else .ok (decimalValue digits)

end Pages

namespace Problem

def maxProblemPage : ℤ := 1000000

def problemPageSize : ℤ := 20

def parsePage (text : Bytes) : Except Bytes ℤ := parsePageUpTo maxProblemPage text

inductive VisibleFilter where
  | all
  | onlyVisible
  | onlyHidden
  deriving DecidableEq, Repr

def parseVisible (text : Bytes) : Except Bytes VisibleFilter :=
  let value := (Bytes.trim text).map Bytes.toLower
  if value = [] ∨ value = Bytes.ofString "all" then .ok .all
  else if value = Bytes.ofString "1" ∨ value = Bytes.ofString "true" then .ok .onlyVisible
  else if value = Bytes.ofString "0" ∨ value = Bytes.ofString "false" then .ok .onlyHidden
  else .error (Bytes.ofString "visible 取值非法：仅支持 all/1/true/0/false")

structure RawListParams where
  q : Bytes
  difficulty : Bytes
  tag : Bytes
  page : Bytes
  visible : Bytes
  deriving DecidableEq, Repr

/-- The parameters after trimming; an empty text does not restrict the list. -/
structure ListFilter where
  keyword : Bytes
  difficulty : Bytes
  tag : Bytes
  page : ℤ
  pageSize : ℤ
  visible : VisibleFilter
  deriving DecidableEq, Repr

def parseListQuery (raw : RawListParams) : Except Bytes ListFilter := do
  let difficulty := Bytes.trim raw.difficulty
  if difficulty ≠ [] ∧ !isValidDifficulty difficulty then
    throw (Bytes.ofString "difficulty 取值非法：仅支持 easy/medium/hard")
  let page ← parsePage raw.page
  let visible ← parseVisible raw.visible
  return {
    keyword := Bytes.trim raw.q
    difficulty := difficulty
    tag := Bytes.trim raw.tag
    page := page
    pageSize := problemPageSize
    visible := visible }

end Problem

namespace UserAdmin

def maxUserPage : ℤ := 1000000

def userPageSize : ℤ := 20

def parsePage (text : Bytes) : Except Bytes ℤ := parsePageUpTo maxUserPage text

end UserAdmin

end OnlineJudge
