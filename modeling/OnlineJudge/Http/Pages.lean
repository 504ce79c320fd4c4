import Mathlib.Data.Nat.Digits.Defs
import OnlineJudge.Problem.ListQuery

/-!
# The page of a list

Three parsers of the source read the parameter `page`: the one of the problem list, the one
of the user list and the leaderboard, and `parse_page_param` of `http/server.cpp` for the
submissions. They are copies of each other. All take the numbers from one to a million in
decimal digits, however many zeros stand in front.
-/

namespace OnlineJudge

namespace Http

def maxSubmissionPage : ℤ := 1000000

def parsePageParam (text : Bytes) : Except Bytes ℤ := parsePageUpTo maxSubmissionPage text

end Http

section Numerals

def IsDigit (byte : UInt8) : Prop := 48 ≤ byte ∧ byte ≤ 57

/-- The number that a text of decimal digits stands for, the first digit being the highest. -/
def numeral (digits : Bytes) : ℕ :=
  Nat.ofDigits 10 (digits.map fun digit => digit.toNat - 48).reverse

variable {digits : Bytes}

theorem IsDigit.toNat {byte : UInt8} (digit : IsDigit byte) :
    48 ≤ byte.toNat ∧ byte.toNat ≤ 57 := by
  simpa [IsDigit, UInt8.le_iff_toNat_le] using digit

theorem numeral_append_one (front : Bytes) (digit : UInt8) :
    numeral (front ++ [digit]) = numeral front * 10 + (digit.toNat - 48) := by
  simp only [numeral, List.map_append, List.map_cons, List.map_nil, List.reverse_append,
    List.reverse_singleton, List.singleton_append, Nat.ofDigits_cons]
  omega

theorem numeral_zero_cons (rest : Bytes) : numeral (48 :: rest) = numeral rest := by
  rw [numeral, List.map_cons]
  exact Nat.ofDigits_reverse_zero_cons _

/-- What the loop over the digits computes. -/
theorem decimalValue_eq (allDigits : ∀ byte ∈ digits, IsDigit byte) :
    decimalValue digits = numeral digits := by
  induction digits using List.reverseRecOn with
  | nil => rfl
  | append_singleton front digit ih =>
      have last := (allDigits digit (by simp)).toNat
      have value := ih fun byte mem => allDigits byte (List.mem_append_left _ mem)
      rw [decimalValue] at value
      rw [decimalValue, List.foldl_concat, value, numeral_append_one]
      omega

theorem numeral_lt (allDigits : ∀ byte ∈ digits, IsDigit byte) :
    numeral digits < 10 ^ digits.length := by
  have bound := Nat.ofDigits_lt_base_pow_length (b := 10)
    (l := (digits.map fun digit => digit.toNat - 48).reverse) (by omega) ?_
  · simpa [numeral] using bound
  · intro value mem
    simp only [List.mem_reverse, List.mem_map] at mem
    rcases mem with ⟨digit, mem, rfl⟩
    have range := (allDigits digit mem).toNat
    omega

/-- Without a zero in front, the number of digits bounds the number from below. -/
theorem pow_le_numeral {first : UInt8} {rest : Bytes} (digit : IsDigit first)
    (nonzero : first ≠ 48) : 10 ^ rest.length ≤ numeral (first :: rest) := by
  have range := digit.toNat
  have positive : first.toNat ≠ 48 := fun same => nonzero (UInt8.toNat_inj.mp same)
  rw [numeral, List.map_cons, Nat.ofDigits_reverse_cons, List.length_map]
  have factor : 1 ≤ first.toNat - 48 := by omega
  have least := Nat.mul_le_mul_left (10 ^ rest.length) factor
  omega

theorem mem_of_mem_dropLeadingZeros {byte : UInt8} (mem : byte ∈ dropLeadingZeros digits) :
    byte ∈ digits := by
  fun_induction dropLeadingZeros digits with
  | case1 next rest ih => exact List.mem_cons_of_mem _ (ih mem)
  | case2 first next rest nonzero => exact mem
  | case3 digits single => exact mem

theorem numeral_dropLeadingZeros (digits : Bytes) :
    numeral (dropLeadingZeros digits) = numeral digits := by
  fun_induction dropLeadingZeros digits with
  | case1 next rest ih => rw [ih, numeral_zero_cons]
  | case2 first next rest nonzero => rfl
  | case3 digits single => rfl

/-- What is left is one digit, or it does not begin with a zero. -/
theorem dropLeadingZeros_cases (nonempty : digits ≠ []) :
    (∃ digit, dropLeadingZeros digits = [digit]) ∨
      ∃ first rest, dropLeadingZeros digits = first :: rest ∧ first ≠ 48 := by
  fun_induction dropLeadingZeros digits with
  | case1 next rest ih => exact ih (List.cons_ne_nil _ _)
  | case2 first next rest nonzero => exact .inr ⟨first, next :: rest, rfl, nonzero⟩
  | case3 digits single =>
      rcases digits with _ | ⟨digit, _ | ⟨next, rest⟩⟩
      · exact absurd rfl nonempty
      · exact .inl ⟨digit, rfl⟩
      · exact absurd rfl (single digit next rest)

/-- The cut-off is at a power of ten: more than `count` digits make it or exceed it. -/
theorem length_dropLeadingZeros_le_iff (nonempty : digits ≠ [])
    (allDigits : ∀ byte ∈ digits, IsDigit byte) {count : ℕ} (positive : 1 ≤ count) :
    (dropLeadingZeros digits).length ≤ count ↔ numeral digits < 10 ^ count := by
  have left : ∀ byte ∈ dropLeadingZeros digits, IsDigit byte := fun byte mem =>
    allDigits byte (mem_of_mem_dropLeadingZeros mem)
  rw [← numeral_dropLeadingZeros digits]
  constructor
  · intro short
    exact (numeral_lt left).trans_le (Nat.pow_le_pow_right (by omega) short)
  · intro small
    rcases dropLeadingZeros_cases nonempty with ⟨digit, single⟩ | ⟨first, rest, begins, nonzero⟩
    · simpa [single] using positive
    · rw [begins] at left small ⊢
      have large : 10 ^ rest.length ≤ numeral (first :: rest) :=
        pow_le_numeral (left first List.mem_cons_self) nonzero
      have fewer : rest.length < count :=
        (Nat.pow_lt_pow_iff_right (by omega)).mp (large.trans_lt small)
      simp only [List.length_cons]
      omega

end Numerals

section Pages

variable {maxPage page : ℤ} {text : Bytes}

/-- What the parameter means: nothing is the first page, a numeral within range is a page. -/
def IsPage (maxPage : ℤ) (text : Bytes) (page : ℤ) : Prop :=
  Bytes.trim text = [] ∧ page = 1 ∨
    Bytes.trim text ≠ [] ∧ (∀ byte ∈ Bytes.trim text, IsDigit byte) ∧
      page = numeral (Bytes.trim text) ∧ 1 ≤ page ∧ page ≤ maxPage

theorem any_eq_true_iff {digits : Bytes} :
    (digits.any fun byte => byte < 48 || 57 < byte) = true ↔
      ¬∀ byte ∈ digits, IsDigit byte := by
  simp only [List.any_eq_true, Bool.or_eq_true, decide_eq_true_eq, IsDigit, not_forall, exists_prop,
    not_and_or, UInt8.not_le]

/-- Neither the zeros in front nor the cut-off at seven digits changes an answer. -/
theorem parsePageUpTo_of_digits (small : maxPage < 10000000) (nonempty : Bytes.trim text ≠ [])
    (allDigits : ∀ byte ∈ Bytes.trim text, IsDigit byte) :
    parsePageUpTo maxPage text =
      if (numeral (Bytes.trim text) : ℤ) < 1 then .error pageNotPositive
      else if maxPage < numeral (Bytes.trim text) then .error (pageTooLarge maxPage)
      else .ok (numeral (Bytes.trim text) : ℤ) := by
  have noOther : ¬((Bytes.trim text).any fun byte => byte < 48 || 57 < byte) = true := by
    rw [any_eq_true_iff]
    exact not_not_intro allDigits
  have value : decimalValue (dropLeadingZeros (Bytes.trim text)) = numeral (Bytes.trim text) := by
    rw [decimalValue_eq fun byte mem => allDigits byte (mem_of_mem_dropLeadingZeros mem),
      numeral_dropLeadingZeros]
  have cutOff : (dropLeadingZeros (Bytes.trim text)).length ≤ 7 ↔
      numeral (Bytes.trim text) < 10 ^ 7 :=
    length_dropLeadingZeros_le_iff nonempty allDigits (by omega)
  simp only [parsePageUpTo, nonempty, noOther, value, Bool.false_eq_true, if_false]
  split
  case isTrue long =>
    -- The number has at least eight digits, so both sides find it too large.
    rw [if_neg (by omega), if_pos (by omega)]
  case isFalse short => rfl

theorem parsePageUpTo_eq_ok_iff (small : maxPage < 10000000) :
    parsePageUpTo maxPage text = .ok page ↔ IsPage maxPage text page := by
  rw [IsPage]
  by_cases empty : Bytes.trim text = []
  · simp [parsePageUpTo, empty, eq_comm]
  by_cases allDigits : ∀ byte ∈ Bytes.trim text, IsDigit byte
  case neg =>
    simp [parsePageUpTo, empty, any_eq_true_iff.mpr allDigits, allDigits]
  case pos =>
    rw [parsePageUpTo_of_digits small empty allDigits, or_iff_right fun blank => empty blank.1,
      and_iff_right empty, and_iff_right allDigits]
    split
    case isTrue zero =>
      simp only [reduceCtorEq, false_iff]
      omega
    case isFalse positive =>
      split
      case isTrue large =>
        simp only [reduceCtorEq, false_iff]
        omega
      case isFalse =>
        simp only [Except.ok.injEq]
        omega

theorem IsPage.one_le (isPage : IsPage maxPage text page) : 1 ≤ page := by
  rcases isPage with ⟨-, first⟩ | ⟨-, -, -, least, -⟩
  · omega
  · exact least

/-- Twenty zeros in front, and white space around. -/
example : parsePageUpTo 1000000 ([32] ++ List.replicate 20 48 ++ [55, 10]) = .ok 7 := rfl

end Pages

section Overflow

def intMax : ℤ := 2147483647

def longLongMax : ℤ := 9223372036854775807

/-- The result of a signed operation whose type ends at `largest`; `none` is an overflow. -/
def checked (largest value : ℤ) : Option ℤ :=
  if -largest - 1 ≤ value ∧ value ≤ largest then some value else none

/-- `value * 10 + (c - '0')`, operation by operation. -/
def addDigitChecked (value : ℤ) (digit : UInt8) : Option ℤ := do
  let scaled ← checked longLongMax (value * 10)
  let unit ← checked intMax (digit.toNat - 48)
  checked longLongMax (scaled + unit)

/-- The parser of a page with all its arithmetic checked. -/
def parsePageChecked (maxPage : ℤ) (text : Bytes) : Option (Except Bytes ℤ) :=
  let trimmed := Bytes.trim text
  if trimmed = [] then some (.ok 1)
  else if trimmed.any fun byte => byte < 48 || 57 < byte then some (.error pageNotPositive)
  else
    let digits := dropLeadingZeros trimmed
    if 7 < digits.length then some (.error (pageTooLarge maxPage))
    else
      (digits.foldlM addDigitChecked 0).bind fun value =>
        if value < 1 then some (.error pageNotPositive)
        else if maxPage < value then some (.error (pageTooLarge maxPage))
        else (checked intMax value).map .ok

variable {digits : Bytes}

theorem checked_eq_some {largest value : ℤ} (least : 0 ≤ value) (most : value ≤ largest) :
    checked largest value = some value := by
  rw [checked, if_pos ⟨by omega, most⟩]

theorem addDigitChecked_eq {value : ℕ} {digit : UInt8} (isDigit : IsDigit digit)
    (room : value < 10 ^ 17) :
    addDigitChecked value digit = some ((value * 10 + (digit.toNat - 48) : ℕ) : ℤ) := by
  have range := isDigit.toNat
  have scaled : checked longLongMax ((value : ℤ) * 10) = some ((value : ℤ) * 10) :=
    checked_eq_some (by omega) (by simp only [longLongMax]; omega)
  have unit : checked intMax (digit.toNat - 48 : ℤ) = some (digit.toNat - 48 : ℤ) :=
    checked_eq_some (by omega) (by simp only [intMax]; omega)
  have sum : checked longLongMax ((value : ℤ) * 10 + (digit.toNat - 48)) =
      some ((value : ℤ) * 10 + (digit.toNat - 48)) :=
    checked_eq_some (by omega) (by simp only [longLongMax]; omega)
  simp only [addDigitChecked, scaled, unit, sum, Option.bind_eq_bind, Option.bind_some]
  congr 1
  omega

/-- The loop over at most eighteen digits, the ones behind `value` included. -/
theorem foldlM_addDigitChecked (allDigits : ∀ byte ∈ digits, IsDigit byte) {value : ℕ}
    (room : (value + 1) * 10 ^ digits.length ≤ 10 ^ 18) :
    digits.foldlM addDigitChecked (value : ℤ) =
      some (digits.foldl (fun value digit => value * 10 + (digit.toNat - 48 : ℤ)) value) := by
  induction digits generalizing value with
  | nil => rfl
  | cons digit rest ih =>
      have isDigit := allDigits digit List.mem_cons_self
      have range := isDigit.toNat
      rw [List.length_cons, Nat.pow_succ'] at room
      have power : 1 ≤ 10 ^ rest.length := Nat.one_le_pow _ _ (by omega)
      have before : value < 10 ^ 17 := by
        have least := Nat.mul_le_mul_left ((value + 1) * 10) power
        rw [Nat.mul_one, Nat.mul_assoc] at least
        omega
      have next : (value * 10 + (digit.toNat - 48) + 1) * 10 ^ rest.length ≤ 10 ^ 18 := by
        refine (Nat.mul_le_mul_right (10 ^ rest.length) ?_).trans (Nat.mul_assoc _ _ _ ▸ room)
        omega
      have later := ih (fun byte mem => allDigits byte (List.mem_cons_of_mem _ mem)) next
      have same : ((value * 10 + (digit.toNat - 48) : ℕ) : ℤ) =
          (value : ℤ) * 10 + (digit.toNat - 48) := by omega
      rw [List.foldlM_cons, addDigitChecked_eq isDigit before, Option.bind_eq_bind,
        Option.bind_some, later, List.foldl_cons, same]

/-- No operation of the parser leaves its type. -/
theorem parsePageChecked_eq (maxPage : ℤ) (text : Bytes) :
    parsePageChecked maxPage text = some (parsePageUpTo maxPage text) := by
  rw [parsePageChecked, parsePageUpTo]
  generalize Bytes.trim text = trimmed
  by_cases empty : trimmed = []
  · simp [empty]
  by_cases allDigits : ∀ byte ∈ trimmed, IsDigit byte
  case neg => simp [empty, any_eq_true_iff.mpr allDigits]
  case pos =>
    have noOther : ¬(trimmed.any fun byte => byte < 48 || 57 < byte) = true := by
      rw [any_eq_true_iff]
      exact not_not_intro allDigits
    have left : ∀ byte ∈ dropLeadingZeros trimmed, IsDigit byte := fun byte mem =>
      allDigits byte (mem_of_mem_dropLeadingZeros mem)
    simp only [empty, noOther, Bool.false_eq_true, if_false]
    split
    case isTrue long => rfl
    case isFalse short =>
      have seven : 10 ^ (dropLeadingZeros trimmed).length ≤ 10 ^ 7 :=
        Nat.pow_le_pow_right (by omega) (by omega)
      have loop : (dropLeadingZeros trimmed).foldlM addDigitChecked 0 =
          some (decimalValue (dropLeadingZeros trimmed)) :=
        @foldlM_addDigitChecked _ left 0 (by omega)
      have below : decimalValue (dropLeadingZeros trimmed) < 10 ^ 7 := by
        rw [decimalValue_eq left]
        exact_mod_cast (numeral_lt left).trans_le seven
      simp only [loop, Option.bind_some]
      split
      case isTrue => rfl
      case isFalse positive =>
        split
        case isTrue => rfl
        case isFalse =>
          have fits : checked intMax (decimalValue (dropLeadingZeros trimmed)) =
              some (decimalValue (dropLeadingZeros trimmed)) :=
            checked_eq_some (by omega) (by simp only [intMax]; omega)
          rw [fits, Option.map_some]

end Overflow

section Parsers

/-- `problem::parse_page` is called by `parse_list_query` alone, which keeps the page. -/
theorem parseListQuery_page_iff {raw : Problem.RawListParams} {page : ℤ} :
    (∃ filter, Problem.parseListQuery raw = .ok filter ∧ filter.page = page) ↔
      Problem.parsePage raw.page = .ok page ∧
        ∃ filter, Problem.parseListQuery { raw with page := [] } = .ok filter := by
  have blank : Problem.parsePage [] = .ok 1 := rfl
  simp only [Problem.parseListQuery, blank]
  split
  case isTrue invalid => simp [throw, throwThe, MonadExceptOf.throw, bind, Except.bind]
  case isFalse valid =>
    cases parsed : Problem.parsePage raw.page with
    | error message => simp [bind, Except.bind]
    | ok read =>
        cases Problem.parseVisible raw.visible with
        | error message => simp [bind, Except.bind]
        | ok visible => simp [bind, Except.bind, pure, Except.pure]

/-- The three parsers of a page are one function, exact for numerals of any length. -/
theorem page_parsers_exact (text : Bytes) :
    (∀ page, (UserAdmin.parsePage text = .ok page ↔ IsPage 1000000 text page) ∧
      (Http.parsePageParam text = .ok page ↔ IsPage 1000000 text page) ∧
      ∀ raw : Problem.RawListParams, raw.page = text →
        ((∃ filter, Problem.parseListQuery raw = .ok filter ∧ filter.page = page) ↔
          IsPage 1000000 text page ∧
            ∃ filter, Problem.parseListQuery { raw with page := [] } = .ok filter)) ∧
      parsePageChecked UserAdmin.maxUserPage text = some (UserAdmin.parsePage text) ∧
      parsePageChecked Http.maxSubmissionPage text = some (Http.parsePageParam text) ∧
      parsePageChecked Problem.maxProblemPage text = some (Problem.parsePage text) := by
  have users (page : ℤ) : UserAdmin.parsePage text = .ok page ↔ IsPage 1000000 text page :=
    parsePageUpTo_eq_ok_iff (by decide)
  have submissions (page : ℤ) : Http.parsePageParam text = .ok page ↔ IsPage 1000000 text page :=
    parsePageUpTo_eq_ok_iff (by decide)
  have problems (page : ℤ) : Problem.parsePage text = .ok page ↔ IsPage 1000000 text page :=
    parsePageUpTo_eq_ok_iff (by decide)
  refine ⟨fun page => ⟨users page, submissions page, ?_⟩, parsePageChecked_eq _ _,
    parsePageChecked_eq _ _, parsePageChecked_eq _ _⟩
  rintro raw rfl
  rw [parseListQuery_page_iff, problems page]

end Parsers

end OnlineJudge
