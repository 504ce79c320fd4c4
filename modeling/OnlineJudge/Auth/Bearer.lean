import Mathlib.Data.List.Forall2
import OnlineJudge.Auth.Context

/-!
# The header with the token

The grammar of the header `Authorization`, and `extract_bearer_token` as its parser: first
the function on the text as a list, then the loops of the source over indices.
-/

namespace OnlineJudge.Auth

section Grammar

/-- A text that spells the capital letters in any case. -/
def InAnyCase (text capitals : Bytes) : Prop :=
  List.Forall₂ (fun byte capital => byte = capital ∨ byte = capital + 32) text capitals

/-- A header with its parts: `Bearer` in any case and one word, with white space between them. -/
structure Credentials where
  before : Bytes
  scheme : Bytes
  between : Bytes
  token : Bytes
  after : Bytes
  before_blank : ∀ byte ∈ before, Bytes.isSpace byte = true
  scheme_bearer : InAnyCase scheme (Bytes.ofString "BEARER")
  between_blank : ∀ byte ∈ between, Bytes.isSpace byte = true
  between_nonempty : between ≠ []
  token_solid : ∀ byte ∈ token, Bytes.isSpace byte = false
  token_nonempty : token ≠ []
  after_blank : ∀ byte ∈ after, Bytes.isSpace byte = true

def Credentials.text (credentials : Credentials) : Bytes :=
  credentials.before ++ credentials.scheme ++ credentials.between ++ credentials.token ++
    credentials.after

theorem toUpper_eq_iff {byte capital : UInt8} (letter : 65 ≤ capital ∧ capital ≤ 90) :
    Bytes.toUpper byte = capital ↔ byte = capital ∨ byte = capital + 32 := by
  simp only [UInt8.le_iff_toNat_le, UInt8.reduceToNat] at letter
  have small := byte.toNat_lt
  rw [Bytes.toUpper]
  simp only [← UInt8.toNat_inj, UInt8.le_iff_toNat_le, UInt8.toNat_add, UInt8.reduceToNat]
  split
  case isTrue lower =>
    have least : (32 : UInt8) ≤ byte := by
      simp only [UInt8.le_iff_toNat_le, UInt8.reduceToNat]
      omega
    rw [UInt8.toNat_sub_of_le _ _ least]
    simp only [UInt8.reduceToNat]
    omega
  case isFalse other => omega

theorem inAnyCase_iff {text capitals : Bytes}
    (letters : ∀ capital ∈ capitals, 65 ≤ capital ∧ capital ≤ 90) :
    InAnyCase text capitals ↔ text.map Bytes.toUpper = capitals := by
  induction capitals generalizing text with
  | nil => simp [InAnyCase]
  | cons capital rest ih =>
      have letter := letters capital List.mem_cons_self
      have later (others : Bytes) : InAnyCase others rest ↔ others.map Bytes.toUpper = rest :=
        ih fun other mem => letters other (List.mem_cons_of_mem _ mem)
      cases text with
      | nil => simp [InAnyCase]
      | cons byte others =>
          simp only [InAnyCase, List.forall₂_cons, List.map_cons, List.cons.injEq,
            toUpper_eq_iff letter] at later ⊢
          rw [later]

end Grammar

section Runs

variable {test : UInt8 → Bool} {run rest : Bytes}

theorem takeWhile_run (all : ∀ byte ∈ run, test byte = true)
    (stops : ∀ byte ∈ rest.head?, test byte = false) : (run ++ rest).takeWhile test = run := by
  rw [List.takeWhile_append_of_pos all]
  cases rest with
  | nil => simp
  | cons first rest => simp [stops first rfl]

theorem dropWhile_run (all : ∀ byte ∈ run, test byte = true)
    (stops : ∀ byte ∈ rest.head?, test byte = false) : (run ++ rest).dropWhile test = rest := by
  rw [List.dropWhile_append_of_pos all]
  cases rest with
  | nil => rfl
  | cons first rest => simp [stops first rfl]

theorem stops_append (nonempty : run ≠ []) (stops : ∀ byte ∈ run.head?, test byte = false) :
    ∀ byte ∈ (run ++ rest).head?, test byte = false := by
  rwa [List.head?_append_of_ne_nil _ nonempty]

/-- Where the white space ends, a word begins. -/
theorem takeWhile_ne_nil {text : Bytes} (nonempty : text.dropWhile Bytes.isSpace ≠ []) :
    (text.dropWhile Bytes.isSpace).takeWhile (fun byte => !Bytes.isSpace byte) ≠ [] := by
  have first := List.head_dropWhile_not Bytes.isSpace nonempty
  rw [← List.cons_head_tail nonempty, List.takeWhile_cons_of_pos (by simp [first])]
  exact List.cons_ne_nil _ _

end Runs

section Parser

variable {authorization token : Bytes}

theorem bearer_iff {scheme : Bytes} : InAnyCase scheme (Bytes.ofString "BEARER") ↔
    scheme.map Bytes.toUpper = (Bytes.ofString "Bearer").map Bytes.toUpper := by
  have letters : ∀ capital ∈ ([66, 69, 65, 82, 69, 82] : Bytes), 65 ≤ capital ∧ capital ≤ 90 := by
    simp
  exact inAnyCase_iff letters

theorem head?_bearer {scheme : Bytes} (bearer : InAnyCase scheme (Bytes.ofString "BEARER")) :
    ∀ byte ∈ scheme.head?, Bytes.isSpace byte = false := by
  rcases List.forall₂_cons_right_iff.mp bearer with ⟨first, rest, letter, -, rfl⟩
  intro byte mem
  have same : first = byte := by simpa using mem
  subst same
  rcases letter with rfl | rfl <;> decide

/-- All that the parser has found out about a header that it accepts. -/
theorem extractBearerToken_cases (accepted : extractBearerToken authorization = some token) :
    ∃ separator rest,
      InAnyCase ((authorization.dropWhile Bytes.isSpace).take 6) (Bytes.ofString "BEARER") ∧
        (authorization.dropWhile Bytes.isSpace).drop 6 = separator :: rest ∧
        Bytes.isSpace separator = true ∧ rest.dropWhile Bytes.isSpace ≠ [] ∧
        (rest.dropWhile Bytes.isSpace).takeWhile (fun byte => !Bytes.isSpace byte) = token ∧
        ∀ byte ∈ (rest.dropWhile Bytes.isSpace).dropWhile fun byte => !Bytes.isSpace byte,
          Bytes.isSpace byte = true := by
  simp only [extractBearerToken] at accepted
  split at accepted
  case isTrue => cases accepted
  case isFalse long =>
    split at accepted
    case isTrue => cases accepted
    case isFalse scheme =>
      split at accepted
      case h_1 => cases accepted
      case h_2 separator rest dropped =>
        split at accepted
        case isTrue => cases accepted
        case isFalse blank =>
          split at accepted
          case isTrue => cases accepted
          case isFalse nonempty =>
            split at accepted
            case isTrue => cases accepted
            case isFalse last =>
              exact ⟨separator, rest, bearer_iff.mpr (not_not.mp scheme), dropped,
                by simpa using blank, nonempty, by simpa using accepted, by simpa using last⟩

/-- A header that is accepted has its parts. -/
theorem exists_credentials (accepted : extractBearerToken authorization = some token) :
    ∃ credentials : Credentials, credentials.text = authorization ∧ credentials.token = token := by
  rcases extractBearerToken_cases accepted with
    ⟨separator, rest, bearer, dropped, blank, nonempty, taken, last⟩
  let credentials : Credentials :=
    { before := authorization.takeWhile Bytes.isSpace
      scheme := (authorization.dropWhile Bytes.isSpace).take 6
      between := separator :: rest.takeWhile Bytes.isSpace
      token := token
      after := (rest.dropWhile Bytes.isSpace).dropWhile fun byte => !Bytes.isSpace byte
      before_blank := fun byte mem => List.mem_takeWhile_imp mem
      scheme_bearer := bearer
      between_blank := by
        intro byte mem
        rcases List.mem_cons.mp mem with rfl | mem
        · exact blank
        · exact List.mem_takeWhile_imp mem
      between_nonempty := List.cons_ne_nil _ _
      token_solid := by
        intro byte mem
        rw [← taken] at mem
        simpa using List.mem_takeWhile_imp mem
      token_nonempty := by
        rw [← taken]
        exact takeWhile_ne_nil nonempty
      after_blank := last }
  refine ⟨credentials, ?_, rfl⟩
  have word : rest.dropWhile Bytes.isSpace = token ++ credentials.after := by
    rw [← taken, List.takeWhile_append_dropWhile]
  have behind : separator :: rest = credentials.between ++ (token ++ credentials.after) := by
    rw [← word, List.cons_append, List.takeWhile_append_dropWhile]
  calc credentials.text
      = credentials.before ++ (credentials.scheme ++
          (credentials.between ++ (token ++ credentials.after))) := by
        simp only [Credentials.text, List.append_assoc, credentials]
    _ = credentials.before ++ authorization.dropWhile Bytes.isSpace := by
        rw [← behind, ← dropped, List.take_append_drop]
    _ = authorization := List.takeWhile_append_dropWhile

/-- A header with its parts is accepted, and gives its token. -/
theorem extractBearerToken_text (credentials : Credentials) :
    extractBearerToken credentials.text = some credentials.token := by
  rcases credentials with ⟨before, scheme, between, token, after, before_blank, bearer,
    between_blank, between_nonempty, token_solid, token_nonempty, after_blank⟩
  have six : scheme.length = 6 := bearer.length_eq
  have schemed : (before ++ (scheme ++ (between ++ (token ++ after)))).dropWhile Bytes.isSpace =
      scheme ++ (between ++ (token ++ after)) := by
    apply dropWhile_run before_blank
    apply stops_append (List.ne_nil_of_length_pos (by omega))
    exact head?_bearer bearer
  rcases List.exists_cons_of_ne_nil between_nonempty with ⟨separator, more, rfl⟩
  have word : (more ++ (token ++ after)).dropWhile Bytes.isSpace = token ++ after := by
    apply dropWhile_run
    · intro byte mem
      exact between_blank byte (List.mem_cons_of_mem _ mem)
    · apply stops_append token_nonempty
      intro byte mem
      exact token_solid byte (List.mem_of_mem_head? mem)
  have behind : ∀ byte ∈ after.head?, (!Bytes.isSpace byte) = false := by
    intro byte mem
    simp [after_blank byte (List.mem_of_mem_head? mem)]
  have taken : (token ++ after).takeWhile (fun byte => !Bytes.isSpace byte) = token :=
    takeWhile_run (by simpa using token_solid) behind
  have left : (token ++ after).dropWhile (fun byte => !Bytes.isSpace byte) = after :=
    dropWhile_run (by simpa using token_solid) behind
  have blank : Bytes.isSpace separator = true := between_blank separator List.mem_cons_self
  have long : ¬(scheme ++ (separator :: more ++ (token ++ after))).length < 6 := by
    rw [List.length_append]
    omega
  simp only [Credentials.text, List.append_assoc, extractBearerToken]
  rw [schemed, if_neg long, List.take_left' six, List.drop_left' six,
    if_neg (not_not_intro (bearer_iff.mp bearer))]
  simp only [List.cons_append, word, taken, left]
  simpa [blank, token_nonempty] using after_blank

end Parser

section Loops

/-- `while (index < text.size() && test(text[index])) ++index;`. -/
def advanceWhile (test : UInt8 → Bool) (text : Bytes) (index : ℕ) : ℕ :=
  if inside : index < text.length then
    if test text[index] then advanceWhile test text (index + 1) else index
  else index
termination_by text.length - index

/-- `extract_bearer_token` behind the scheme: white space, the token, white space. -/
def scanWord (authorization : Bytes) (pos : ℕ) : Option Bytes :=
  if authorization.length ≤ pos ∨ authorization[pos]?.all fun byte => !Bytes.isSpace byte then none
  else
    let start := advanceWhile Bytes.isSpace authorization pos
    if authorization.length ≤ start then none
    else
      let stop := advanceWhile (fun byte => !Bytes.isSpace byte) authorization start
      -- The last loop returns where it meets anything but white space.
      if advanceWhile Bytes.isSpace authorization stop < authorization.length then none
      else
        let token := (authorization.drop start).take (stop - start)
        if token = [] then none else some token

/-- `extract_bearer_token`, loop by loop. -/
def scanBearerToken (authorization : Bytes) : Option Bytes :=
  let scheme := Bytes.ofString "Bearer"
  let i := advanceWhile Bytes.isSpace authorization 0
  if authorization.length < i + 6 then none
  else if (List.range 6).any fun j =>
      authorization[i + j]?.map Bytes.toUpper ≠ scheme[j]?.map Bytes.toUpper then none
  else scanWord authorization (i + 6)

variable {test : UInt8 → Bool} {text : Bytes} {index : ℕ}

theorem le_advanceWhile : index ≤ advanceWhile test text index := by
  fun_induction advanceWhile test text index with
  | case1 index inside passes ih => omega
  | case2 index inside fails => rfl
  | case3 index outside => rfl

/-- The loop stops where `dropWhile` does. -/
theorem drop_advanceWhile :
    text.drop (advanceWhile test text index) = (text.drop index).dropWhile test := by
  fun_induction advanceWhile test text index with
  | case1 index inside passes ih =>
      rw [ih, List.drop_eq_getElem_cons inside, List.dropWhile_cons_of_pos passes]
  | case2 index inside fails =>
      rw [List.drop_eq_getElem_cons inside, List.dropWhile_cons_of_neg fails]
  | case3 index outside => simp [List.drop_eq_nil_of_le (Nat.le_of_not_lt outside)]

theorem take_advanceWhile :
    (text.drop index).take (advanceWhile test text index - index) =
      (text.drop index).takeWhile test := by
  fun_induction advanceWhile test text index with
  | case1 index inside passes ih =>
      have further : index + 1 ≤ advanceWhile test text (index + 1) := le_advanceWhile
      rcases Nat.exists_eq_add_of_le further with ⟨count, stop⟩
      have steps : advanceWhile test text (index + 1) - index = count + 1 := by omega
      have fewer : advanceWhile test text (index + 1) - (index + 1) = count := by omega
      rw [List.drop_eq_getElem_cons inside, List.takeWhile_cons_of_pos passes, ← ih, steps, fewer,
        List.take_succ_cons]
  | case2 index inside fails =>
      rw [List.drop_eq_getElem_cons inside, List.takeWhile_cons_of_neg fails, Nat.sub_self,
        List.take_zero]
  | case3 index outside => simp [List.drop_eq_nil_of_le (Nat.le_of_not_lt outside)]

theorem length_le_advanceWhile_iff :
    text.length ≤ advanceWhile test text index ↔ (text.drop index).dropWhile test = [] := by
  rw [← drop_advanceWhile, List.drop_eq_nil_iff]

/-- The comparison letter by letter. -/
theorem any_getElem?_ne_iff {front word : Bytes} (length : word.length = 6) :
    ((List.range 6).any fun j =>
        front[j]?.map Bytes.toUpper ≠ word[j]?.map Bytes.toUpper) = true ↔
      (front.take 6).map Bytes.toUpper ≠ word.map Bytes.toUpper := by
  rw [← not_iff_not, not_not, List.ext_getElem?_iff]
  simp only [List.any_eq_true, List.mem_range, decide_eq_true_eq, not_exists, not_and, not_not,
    List.getElem?_map, ne_eq]
  constructor
  · intro letters j
    by_cases inside : j < 6
    · rw [List.getElem?_take_of_lt inside, letters j inside]
    · rw [List.getElem?_eq_none (by simp; omega), List.getElem?_eq_none (by omega)]
  · intro same j inside
    rw [← same j, List.getElem?_take_of_lt inside]

theorem scanWord_of_nil {pos : ℕ} (behind : text.drop pos = []) : scanWord text pos = none := by
  rw [scanWord, if_pos (.inl (List.drop_eq_nil_iff.mp behind))]

theorem scanWord_of_cons {pos : ℕ} {separator : UInt8} {rest : Bytes}
    (behind : text.drop pos = separator :: rest) :
    scanWord text pos =
      if !Bytes.isSpace separator then none
      else
        let word := rest.dropWhile Bytes.isSpace
        if word = [] then none
        else if (word.dropWhile fun byte => !Bytes.isSpace byte).any fun byte =>
            !Bytes.isSpace byte then none
        else some (word.takeWhile fun byte => !Bytes.isSpace byte) := by
  have inside : ¬text.length ≤ pos := by
    rw [← List.drop_eq_nil_iff, behind]
    exact List.cons_ne_nil _ _
  have found : text[pos]? = some separator := by
    rw [← List.head?_drop, behind, List.head?_cons]
  rw [scanWord, found, Option.all_some]
  by_cases blank : Bytes.isSpace separator = true
  case neg => simp [blank]
  case pos =>
    have word : text.drop (advanceWhile Bytes.isSpace text pos) = rest.dropWhile Bytes.isSpace := by
      rw [drop_advanceWhile, behind, List.dropWhile_cons_of_pos blank]
    simp only [inside, blank, Bool.not_true, Bool.false_eq_true, or_self, if_false]
    generalize advanceWhile Bytes.isSpace text pos = start at word ⊢
    by_cases empty : rest.dropWhile Bytes.isSpace = []
    · have ended : text.length ≤ start := by
        rw [← List.drop_eq_nil_iff, word, empty]
      rw [if_pos ended, if_pos empty]
    have remains : ¬text.length ≤ start := by
      rwa [← List.drop_eq_nil_iff, word]
    have last : advanceWhile Bytes.isSpace text
          (advanceWhile (fun byte => !Bytes.isSpace byte) text start) < text.length ↔
        (((rest.dropWhile Bytes.isSpace).dropWhile fun byte => !Bytes.isSpace byte).any
          fun byte => !Bytes.isSpace byte) = true := by
      rw [← not_le, length_le_advanceWhile_iff, drop_advanceWhile, word,
        List.dropWhile_eq_nil_iff]
      simp
    simp only [remains, empty, last, take_advanceWhile, if_false]
    simp only [word, takeWhile_ne_nil empty, if_false]

theorem scanBearerToken_eq (authorization : Bytes) :
    scanBearerToken authorization = extractBearerToken authorization := by
  simp only [scanBearerToken, extractBearerToken]
  have schemed : authorization.drop (advanceWhile Bytes.isSpace authorization 0) =
      authorization.dropWhile Bytes.isSpace := drop_advanceWhile
  generalize advanceWhile Bytes.isSpace authorization 0 = i at schemed ⊢
  rw [← schemed]
  by_cases short : authorization.length < i + 6
  · have fewer : (authorization.drop i).length < 6 := by
      rw [List.length_drop]
      omega
    rw [if_pos short, if_pos fewer]
  have enough : ¬(authorization.drop i).length < 6 := by
    rw [List.length_drop]
    omega
  have letters := @any_getElem?_ne_iff (authorization.drop i) (Bytes.ofString "Bearer") rfl
  simp only [List.getElem?_drop] at letters
  rw [if_neg short, if_neg enough]
  simp only [letters]
  split
  case isTrue => rfl
  case isFalse bearer =>
    rw [List.drop_drop]
    cases behind : authorization.drop (i + 6) with
    | nil => exact scanWord_of_nil behind
    | cons separator rest => rw [scanWord_of_cons behind]

end Loops

/-- The loops accept exactly the headers of the grammar, and the header determines the token. -/
theorem scanBearerToken_exact (authorization : Bytes) :
    (∀ token, scanBearerToken authorization = some token ↔
        ∃ credentials : Credentials,
          credentials.text = authorization ∧ credentials.token = token) ∧
      (∀ first second : Credentials, first.text = authorization → second.text = authorization →
        first.token = second.token) ∧
      (scanBearerToken authorization = none ↔
        ¬∃ credentials : Credentials, credentials.text = authorization) ∧
      extractBearerToken authorization = scanBearerToken authorization := by
  rw [scanBearerToken_eq]
  have accepts (credentials : Credentials) (text : credentials.text = authorization) :
      extractBearerToken authorization = some credentials.token := by
    rw [← text, extractBearerToken_text]
  refine ⟨fun token => ⟨exists_credentials, ?_⟩, ?_, ?_, rfl⟩
  · rintro ⟨credentials, text, rfl⟩
    exact accepts credentials text
  · intro first second firstText secondText
    apply Option.some.inj
    rw [← accepts first firstText, accepts second secondText]
  · constructor
    · rintro rejected ⟨credentials, text⟩
      simp [accepts credentials text] at rejected
    · intro outside
      cases found : extractBearerToken authorization with
      | none => rfl
      | some token =>
          rcases exists_credentials found with ⟨credentials, text, -⟩
          exact absurd ⟨credentials, text⟩ outside

end OnlineJudge.Auth
