import OnlineJudge.Web.Router

/-!
# Targets that are safe and stay the same

A target that `sanitizeTarget` lets through stays on the site and leads to a page that
exists. It is checked once before it is stored and once more when it is used, and the
second check is meant to change nothing. It does so for a path that ends in white space
once its last slashes are gone.
-/

namespace OnlineJudge.Web

open JsString

/-- What `sanitizeTarget` asks of the trimmed target. -/
structure Accepted (routes : List Route) (value : JsString) : Prop where
  rooted : [47] <+: value
  single : ¬[47, 47] <+: value
  noBackslash : 92 ∉ value
  noControl : value.any isControl = false
  notFlow : targetPath value ∉ flowPaths
  matched : ∃ matched, matchRoute routes (targetPath value) = some matched ∧
    matched.invalid = false
  searchClean : (targetSearch value).any (fun unit => isControl unit || unit = 35) = false

/-- A parameter that the page may have: it can be decoded, to a text without control characters
and slashes that is no name of a directory. -/
def ValidParam (value : JsString) : Prop :=
  ∃ decoded, decodeURIComponent value = some decoded ∧ decoded.any isControl = false ∧
    47 ∉ decoded ∧ decoded ≠ [46] ∧ decoded ≠ [46, 46]

/-- A target on the site that leads to a registered page, but not to one of a login. -/
structure SafeTarget (routes : List Route) (target : JsString) : Prop where
  rooted : [47] <+: target
  single : ¬[47, 47] <+: target
  noBackslash : 92 ∉ target
  noControl : target.any isControl = false
  registered : ∃ route ∈ routes, ∃ params,
    matchSegments (compile route.pattern) ((target.takeWhile (· ≠ 63)).splitOn 47) = some params ∧
      ∀ param ∈ params, ValidParam param.2
  notFlow : target.takeWhile (· ≠ 63) ∉ flowPaths

/-- The path and the query as they are put together again. -/
def joinTarget (path search : JsString) : JsString :=
  if search ≠ [] then path ++ [63] ++ search else path

variable {routes : List Route} {value path search raw : JsString}

theorem sanitizeTarget_of_accepted (accepted : Accepted routes (targetValue raw)) :
    sanitizeTarget routes (some raw) =
      joinTarget (targetPath (targetValue raw)) (targetSearch (targetValue raw)) := by
  rcases accepted.matched with ⟨matched, found, valid⟩
  have nonempty : targetValue raw ≠ [] := by
    intro empty
    have rooted := accepted.rooted
    simp [empty] at rooted
  simp only [sanitizeTarget, if_neg nonempty, if_neg (not_not.mpr accepted.rooted),
    if_neg accepted.single, if_neg accepted.noBackslash, accepted.noControl,
    if_neg accepted.notFlow, found, valid, accepted.searchClean]
  simp [joinTarget]

/-- A check that answers with the empty target was not met. -/
theorem of_guard {guard : Prop} [Decidable guard] {result : JsString}
    (passes : ¬(if guard then [] else result) = []) : ¬guard ∧ ¬result = [] := by
  by_cases held : guard
  · simp [held] at passes
  · rw [if_neg held] at passes
    exact ⟨held, passes⟩

theorem sanitizeTarget_of_not_accepted (refused : ¬Accepted routes (targetValue raw)) :
    sanitizeTarget routes (some raw) = [] := by
  by_contra passes
  apply refused
  simp only [sanitizeTarget] at passes
  rcases of_guard passes with ⟨-, passes⟩
  rcases of_guard passes with ⟨rooted, passes⟩
  rcases of_guard passes with ⟨single, passes⟩
  rcases of_guard passes with ⟨noBackslash, passes⟩
  rcases of_guard passes with ⟨noControl, passes⟩
  rcases of_guard passes with ⟨notFlow, passes⟩
  split at passes
  · exact absurd rfl passes
  rename_i matched found
  rcases of_guard passes with ⟨valid, passes⟩
  rcases of_guard passes with ⟨searchClean, -⟩
  exact
    { rooted := not_not.mp rooted
      single := single
      noBackslash := noBackslash
      noControl := by simpa using noControl
      notFlow := notFlow
      matched := ⟨matched, found, by simpa using valid⟩
      searchClean := by
        by_cases empty : targetSearch (targetValue raw) = []
        · rw [empty]
          rfl
        · simpa [empty] using searchClean }

section Normal

/-- An accepted target begins with one slash. -/
theorem Accepted.exists_rest (accepted : Accepted routes value) :
    ∃ rest, value = 47 :: rest ∧ rest.head? ≠ some 47 := by
  rcases accepted.rooted with ⟨rest, rfl⟩
  refine ⟨rest, rfl, ?_⟩
  intro second
  obtain ⟨tail, rfl⟩ : ∃ tail, rest = 47 :: tail := by
    cases rest with
    | nil => simp at second
    | cons first tail => exact ⟨tail, by simpa using second⟩
  exact accepted.single ⟨tail, rfl⟩

theorem dropWhile_slash {rest : JsString} (single : rest.head? ≠ some 47) :
    rest.dropWhile (· = 47) = rest := by
  rw [List.dropWhile_eq_self_iff]
  intro nonempty
  cases rest with
  | nil => simp at nonempty
  | cons first tail => simpa using single

theorem rdropWhile_cons_slash {rest : JsString} (single : rest.head? ≠ some 47)
    (nonempty : rest ≠ []) :
    (47 :: rest).rdropWhile (· = 47) = 47 :: rest.rdropWhile (· = 47) := by
  have kept : rest.rdropWhile (· = 47) ≠ [] := by
    rw [Ne, List.rdropWhile_eq_nil_iff]
    intro all_slashes
    cases rest with
    | nil => exact nonempty rfl
    | cons first tail =>
        have isSlash := all_slashes first List.mem_cons_self
        simp at isSlash single
        exact single isSlash
  have kept_reverse : (rest.reverse.dropWhile (· = 47)).isEmpty = false := by
    simpa [List.rdropWhile] using kept
  rw [List.rdropWhile, List.reverse_cons, List.dropWhile_append, kept_reverse]
  simp [List.rdropWhile]

/-- The normal form of a path that begins with one slash. -/
theorem normalizePath_of_single {rest : JsString} (single : rest.head? ≠ some 47) :
    normalizePath (47 :: rest) = 47 :: rest.rdropWhile (· = 47) := by
  have rooted : [47] <+: 47 :: rest := ⟨rest, rfl⟩
  have stripped : (47 :: rest).dropWhile (· = 47) = rest := by
    rw [List.dropWhile_cons_of_pos (by simp), dropWhile_slash single]
  simp only [normalizePath, if_pos rooted, stripped]
  by_cases empty : rest = []
  · subst empty
    rfl
  · have long : 1 < (47 :: rest).length := by
      have positive := List.length_pos_of_ne_nil empty
      simp only [List.length_cons]
      omega
    rw [if_pos long, rdropWhile_cons_slash single empty, if_neg (List.cons_ne_nil _ _)]

variable {rest : JsString}

theorem head?_takeWhile_ne (single : rest.head? ≠ some 47) :
    (rest.takeWhile (· ≠ 63)).head? ≠ some 47 := by
  cases rest with
  | nil => simp
  | cons first tail =>
      by_cases question : first = 63
      · simp [question]
      · rw [List.takeWhile_cons_of_pos (by simpa using question)]
        exact single

theorem head?_rdropWhile_ne (single : rest.head? ≠ some 47) :
    (rest.rdropWhile (· = 47)).head? ≠ some 47 := by
  intro first
  have isPrefix := List.rdropWhile_prefix (· = 47) rest
  rcases isPrefix with ⟨tail, same⟩
  cases kept : rest.rdropWhile (· = 47) with
  | nil => rw [kept] at first; simp at first
  | cons head front =>
      rw [kept] at first same
      rw [← same] at single
      exact single first

theorem targetPath_of_single (single : rest.head? ≠ some 47) :
    targetPath (47 :: rest) = 47 :: (rest.takeWhile (· ≠ 63)).rdropWhile (· = 47) := by
  rw [targetPath, List.takeWhile_cons_of_pos (by decide),
    normalizePath_of_single (head?_takeWhile_ne single)]

/-- The normal form is kept by normalising once more. -/
theorem normalizePath_targetPath (single : rest.head? ≠ some 47) :
    normalizePath (targetPath (47 :: rest)) = targetPath (47 :: rest) := by
  rw [targetPath_of_single single,
    normalizePath_of_single (head?_rdropWhile_ne (head?_takeWhile_ne single)),
    List.rdropWhile_idempotent]

theorem mem_of_mem_targetPath (single : rest.head? ≠ some 47) {unit : UInt16}
    (mem : unit ∈ targetPath (47 :: rest)) : unit ∈ 47 :: rest ∧ unit ≠ 63 := by
  rw [targetPath_of_single single] at mem
  rcases List.mem_cons.mp mem with rfl | inRest
  · exact ⟨List.mem_cons_self, by decide⟩
  · have inFront := (List.rdropWhile_prefix _ _).subset inRest
    exact ⟨List.mem_cons_of_mem _ ((List.takeWhile_prefix _).subset inFront), by
      simpa using List.mem_takeWhile_imp inFront⟩

theorem mem_of_mem_targetSearch {unit : UInt16} (mem : unit ∈ targetSearch value) :
    unit ∈ value :=
  (List.dropWhile_suffix _).subset (List.mem_of_mem_drop mem)

end Normal

section Joined

theorem takeWhile_joinTarget (noQuestion : 63 ∉ path) (search : JsString) :
    (joinTarget path search).takeWhile (· ≠ 63) = path := by
  have all_kept : ∀ unit ∈ path, (decide (unit ≠ 63)) = true := by
    intro unit mem
    simp only [ne_eq, decide_eq_true_eq]
    rintro rfl
    exact noQuestion mem
  rw [joinTarget]
  split
  · rw [List.append_assoc, List.takeWhile_append_of_pos all_kept]
    simp
  · exact List.takeWhile_eq_self_iff.mpr all_kept

theorem targetSearch_joinTarget (noQuestion : 63 ∉ path) (search : JsString) :
    targetSearch (joinTarget path search) = search := by
  have all_dropped : ∀ unit ∈ path, (decide (unit ≠ 63)) = true := by
    intro unit mem
    simp only [ne_eq, decide_eq_true_eq]
    rintro rfl
    exact noQuestion mem
  rw [targetSearch, joinTarget]
  split
  · rw [List.append_assoc, List.dropWhile_append_of_pos all_dropped]
    simp
  · rename_i empty
    have none_left : path.dropWhile (· ≠ 63) = [] := List.dropWhile_eq_nil_iff.mpr all_dropped
    rw [none_left, not_not.mp empty]
    rfl

end Joined

section Safe

/-- The route that is found for a path. -/
theorem exists_route_of_matchRoute {matched : RouteMatch}
    (found : matchRoute routes path = some matched) :
    ∃ route ∈ routes, ∃ params,
      matchSegments (compile route.pattern) (path.splitOn 47) = some params ∧
        matched.params = params.map fun param => decodeParam param.1 param.2 := by
  induction routes with
  | nil => cases found
  | cons route routes ih =>
      have later : matchRoute routes path = some matched → ∃ route' ∈ route :: routes, ∃ params,
          matchSegments (compile route'.pattern) (path.splitOn 47) = some params ∧
            matched.params = params.map fun param => decodeParam param.1 param.2 := by
        intro found
        rcases ih found with ⟨route', mem, rest⟩
        exact ⟨route', List.mem_cons_of_mem _ mem, rest⟩
      simp only [matchRoute] at found
      split at found
      · exact later found
      · split at found
        · exact later found
        · rename_i params matchesPath
          rcases Option.some.inj found with rfl
          exact ⟨route, List.mem_cons_self, params, matchesPath, rfl⟩

theorem validParam_of_valid {key value : JsString}
    (valid : (decodeParam key value).invalid = false) : ValidParam value := by
  simp only [decodeParam, Bool.or_eq_false_iff, decide_eq_false_iff_not] at valid
  rcases valid with ⟨⟨⟨⟨decodes, noControl⟩, noSlash⟩, notDot⟩, notDots⟩
  cases decoded : decodeURIComponent value with
  | none => simp [decoded] at decodes
  | some text =>
      rw [decoded, Option.getD_some] at noControl noSlash notDot notDots
      exact ⟨text, decoded, noControl, noSlash, notDot, notDots⟩

theorem not_mem_targetPath_question (accepted : Accepted routes value) :
    63 ∉ targetPath value := by
  rcases accepted.exists_rest with ⟨rest, rfl, single⟩
  intro mem
  exact (mem_of_mem_targetPath single mem).2 rfl

theorem mem_joinTarget {unit : UInt16} (mem : unit ∈ joinTarget path search) :
    unit ∈ path ∨ unit = 63 ∨ unit ∈ search := by
  rw [joinTarget] at mem
  split at mem
  · simpa using mem
  · exact .inl mem

/-- What is put together from an accepted target is accepted and has the same parts. -/
theorem Accepted.join (accepted : Accepted routes value) :
    Accepted routes (joinTarget (targetPath value) (targetSearch value)) ∧
      targetPath (joinTarget (targetPath value) (targetSearch value)) = targetPath value ∧
      targetSearch (joinTarget (targetPath value) (targetSearch value)) = targetSearch value := by
  have noQuestion := not_mem_targetPath_question accepted
  have search_eq := targetSearch_joinTarget noQuestion (targetSearch value)
  have path_eq : targetPath (joinTarget (targetPath value) (targetSearch value)) =
      targetPath value := by
    rcases accepted.exists_rest with ⟨rest, rfl, single⟩
    rw [targetPath, takeWhile_joinTarget noQuestion, normalizePath_targetPath single]
  have from_value : ∀ unit ∈ joinTarget (targetPath value) (targetSearch value),
      unit ∈ value ∨ unit = 63 := by
    intro unit mem
    rcases accepted.exists_rest with ⟨rest, rfl, single⟩
    rcases mem_joinTarget mem with inPath | question | inSearch
    · exact .inl (mem_of_mem_targetPath single inPath).1
    · exact .inr question
    · exact .inl (mem_of_mem_targetSearch inSearch)
  have first_two : ∃ rest, joinTarget (targetPath value) (targetSearch value) = 47 :: rest ∧
      rest.head? ≠ some 47 := by
    rcases accepted.exists_rest with ⟨rest, rfl, single⟩
    have path_single := head?_rdropWhile_ne (head?_takeWhile_ne single)
    rw [targetPath_of_single single, joinTarget]
    split
    · refine ⟨(rest.takeWhile (· ≠ 63)).rdropWhile (· = 47) ++ [63] ++ _, rfl, ?_⟩
      cases kept : (rest.takeWhile (· ≠ 63)).rdropWhile (· = 47) with
      | nil => simp
      | cons head tail =>
          rw [kept] at path_single
          exact path_single
    · exact ⟨_, rfl, path_single⟩
  refine ⟨?_, path_eq, search_eq⟩
  rcases first_two with ⟨rest, join_eq, single⟩
  exact
    { rooted := by
        rw [join_eq]
        exact ⟨rest, rfl⟩
      single := by
        rw [join_eq]
        rintro ⟨tail, same⟩
        injection same with _ same
        rw [← same] at single
        exact single rfl
      noBackslash := by
        intro mem
        rcases from_value 92 mem with inValue | isQuestion
        · exact accepted.noBackslash inValue
        · exact absurd isQuestion (by decide)
      noControl := by
        rw [List.any_eq_false]
        intro unit mem
        rcases from_value unit mem with inValue | rfl
        · exact List.any_eq_false.mp accepted.noControl unit inValue
        · decide
      notFlow := by
        rw [path_eq]
        exact accepted.notFlow
      matched := by
        rw [path_eq]
        exact accepted.matched
      searchClean := by
        rw [search_eq]
        exact accepted.searchClean }

/-- An accepted target whose parts are put together is safe. -/
theorem Accepted.safe (accepted : Accepted routes value) :
    SafeTarget routes (joinTarget (targetPath value) (targetSearch value)) := by
  have join := accepted.join.1
  have path_eq := takeWhile_joinTarget (not_mem_targetPath_question accepted) (targetSearch value)
  exact
    { rooted := join.rooted
      single := join.single
      noBackslash := join.noBackslash
      noControl := join.noControl
      registered := by
        rcases accepted.matched with ⟨matched, found, valid⟩
        rcases exists_route_of_matchRoute found with ⟨route, mem, params, matchesPath, params_eq⟩
        refine ⟨route, mem, params, path_eq.symm ▸ matchesPath, ?_⟩
        intro param paramMem
        apply validParam_of_valid
        rw [RouteMatch.invalid, params_eq, List.any_map, List.any_eq_false] at valid
        simpa using valid param paramMem
      notFlow := path_eq.symm ▸ accepted.notFlow }

end Safe

section Stable

/-- The string ends in white space that `trim` takes off. -/
def EndsInSpace (text : JsString) : Prop := ∃ unit ∈ text.getLast?, isSpace unit = true

theorem getLast?_of_suffix {suffix text : JsString} (isSuffix : suffix <:+ text)
    (nonempty : suffix ≠ []) : suffix.getLast? = text.getLast? := by
  rcases isSuffix with ⟨front, rfl⟩
  rw [List.getLast?_append_of_ne_nil _ nonempty]

theorem not_endsInSpace_trim (text : JsString) : ¬EndsInSpace (trim text) := by
  rintro ⟨unit, isLast, space⟩
  rcases List.mem_getLast?_eq_getLast isLast with ⟨nonempty, rfl⟩
  exact List.rdropWhile_last_not _ _ nonempty space

theorem not_endsInSpace_targetValue (raw : JsString) : ¬EndsInSpace (targetValue raw) := by
  intro ends
  apply not_endsInSpace_trim raw
  rw [targetValue] at ends
  split at ends
  · rcases ends with ⟨unit, isLast, space⟩
    refine ⟨unit, ?_, space⟩
    have nonempty : (trim raw).drop 1 ≠ [] := by
      intro empty
      simp [empty] at isLast
    rwa [← getLast?_of_suffix (List.drop_suffix 1 (trim raw)) nonempty]
  · exact ends

theorem trim_eq_of_rooted (rooted : [47] <+: raw) :
    trim raw = raw.rdropWhile isSpace := by
  rcases rooted with ⟨rest, rfl⟩
  rw [trim, List.singleton_append, List.dropWhile_cons_of_neg (by decide)]

theorem not_hash_of_rooted (rooted : [47] <+: raw) : ¬[35] <+: trim raw := by
  intro hash
  rw [trim_eq_of_rooted rooted] at hash
  have first := hash.trans (List.rdropWhile_prefix isSpace raw)
  rcases rooted with ⟨rest, rfl⟩
  simp at first

theorem targetValue_of_rooted (rooted : [47] <+: raw) :
    targetValue raw = raw.rdropWhile isSpace := by
  change (if [35] <+: trim raw then _ else _) = _
  rw [if_neg (not_hash_of_rooted rooted), trim_eq_of_rooted rooted]

theorem targetValue_eq_self_iff (rooted : [47] <+: raw) :
    targetValue raw = raw ↔ ¬EndsInSpace raw := by
  rw [targetValue_of_rooted rooted, List.rdropWhile_eq_self_iff]
  constructor
  · rintro clean ⟨unit, isLast, space⟩
    rcases List.mem_getLast?_eq_getLast isLast with ⟨nonempty, rfl⟩
    exact clean nonempty space
  · intro clean nonempty space
    exact clean ⟨_, List.getLast_mem_getLast? nonempty, space⟩

theorem length_joinTarget_le (accepted : Accepted routes value) :
    (joinTarget (targetPath value) (targetSearch value)).length ≤ value.length := by
  rcases accepted.exists_rest with ⟨rest, rfl, single⟩
  have path_le := (List.rdropWhile_prefix (· = 47) (rest.takeWhile (· ≠ 63))).length_le
  have parts : (rest.takeWhile (· ≠ 63)).length + (rest.dropWhile (· ≠ 63)).length =
      rest.length := by
    rw [← List.length_append, List.takeWhile_append_dropWhile]
  have search_eq : targetSearch (47 :: rest) = (rest.dropWhile (· ≠ 63)).drop 1 := by
    rw [targetSearch, List.dropWhile_cons_of_pos (by decide)]
  rw [targetPath_of_single single, search_eq, joinTarget]
  split
  · rename_i nonempty
    have positive := List.length_pos_of_ne_nil nonempty
    simp only [List.length_append, List.length_cons, List.length_nil, List.length_drop]
      at positive ⊢
    omega
  · simp only [List.length_cons]
    omega

/-- A target that is put together ends in white space only if its path does and it has no query. -/
theorem endsInSpace_join_iff (raw : JsString) :
    EndsInSpace (joinTarget (targetPath (targetValue raw)) (targetSearch (targetValue raw))) ↔
      targetSearch (targetValue raw) = [] ∧ EndsInSpace (targetPath (targetValue raw)) := by
  rw [joinTarget]
  split
  · rename_i nonempty
    have isSuffix : targetSearch (targetValue raw) <:+ targetValue raw :=
      (List.drop_suffix _ _).trans (List.dropWhile_suffix _)
    have last_eq := getLast?_of_suffix isSuffix nonempty
    constructor
    · intro ends
      rw [EndsInSpace, List.getLast?_append_of_ne_nil _ nonempty, last_eq] at ends
      exact absurd ends (not_endsInSpace_targetValue raw)
    · rintro ⟨empty, -⟩
      exact absurd empty nonempty
  · rename_i empty
    simp [not_not.mp empty]

theorem length_sanitizeTarget_le (routes : List Route) (raw : JsString) :
    (sanitizeTarget routes (some raw)).length ≤ (targetValue raw).length := by
  by_cases accepted : Accepted routes (targetValue raw)
  · rw [sanitizeTarget_of_accepted accepted]
    exact length_joinTarget_le accepted
  · rw [sanitizeTarget_of_not_accepted accepted]
    exact Nat.zero_le _

/-- A checked target passes the second check as it is, or loses the white space at its end. -/
theorem sanitizeTarget_join_eq_iff (accepted : Accepted routes value) :
    sanitizeTarget routes (some (joinTarget (targetPath value) (targetSearch value))) =
        joinTarget (targetPath value) (targetSearch value) ↔
      ¬EndsInSpace (joinTarget (targetPath value) (targetSearch value)) := by
  rcases accepted.join with ⟨joined, path_eq, search_eq⟩
  constructor
  · intro stable ends
    have value_le := length_sanitizeTarget_le routes
      (joinTarget (targetPath value) (targetSearch value))
    have trimmed := targetValue_of_rooted joined.rooted
    rw [stable, trimmed] at value_le
    have whole := (List.rdropWhile_prefix isSpace _).eq_of_length_le value_le
    exact (targetValue_eq_self_iff joined.rooted).mp (trimmed.trans whole) ends
  · intro clean
    have value_eq := (targetValue_eq_self_iff joined.rooted).mpr clean
    rw [sanitizeTarget_of_accepted (value_eq.symm ▸ joined), value_eq, path_eq, search_eq]

/-- The result is safe and a second check leaves it as it is, unless the target is accepted without
a query and its path, once its last slashes are gone, ends in white space. -/
theorem target_safe_and_stable_iff (routes : List Route) (raw : JsString) :
    ((sanitizeTarget routes (some raw) = [] ∨
        SafeTarget routes (sanitizeTarget routes (some raw))) ∧
      sanitizeTarget routes (some (sanitizeTarget routes (some raw))) =
        sanitizeTarget routes (some raw)) ↔
      ¬(Accepted routes (targetValue raw) ∧ targetSearch (targetValue raw) = [] ∧
        EndsInSpace (targetPath (targetValue raw))) := by
  by_cases accepted : Accepted routes (targetValue raw)
  · rw [sanitizeTarget_of_accepted accepted, sanitizeTarget_join_eq_iff accepted,
      endsInSpace_join_iff]
    constructor
    · rintro ⟨-, clean⟩ ⟨-, ends⟩
      exact clean ends
    · intro clean
      exact ⟨.inr accepted.safe, fun ends => clean ⟨accepted, ends⟩⟩
  · rw [sanitizeTarget_of_not_accepted accepted]
    constructor
    · rintro - ⟨isAccepted, -⟩
      exact accepted isAccepted
    · exact fun _ => ⟨.inl rfl, rfl⟩

/-- With the page `/:x`, the target `/3 /` is checked to `/3 ` first and to `/3` then. -/
theorem second_check_changes_target :
    ¬∀ (routes : List Route) (raw : JsString),
      sanitizeTarget routes (some (sanitizeTarget routes (some raw))) =
        sanitizeTarget routes (some raw) := by
  intro claim
  have same := claim [⟨[47, 58, 120], .auth⟩] [47, 51, 32, 47]
  revert same
  decide +kernel

/-- After a login the browser goes to the problems, to the login or to a safe target. -/
theorem redirect_safe (routes : List Route) (viewer : Viewer) (raw : JsString) :
    (resolvePostAuthTarget routes viewer (some raw)).path ∈
        [JsString.ofString "/problems", JsString.ofString "/login"] ∨
      SafeTarget routes (resolvePostAuthTarget routes viewer (some raw)).path := by
  by_cases accepted : Accepted routes (targetValue raw)
  · have safe := accepted.safe
    rw [← sanitizeTarget_of_accepted accepted] at safe
    simp only [resolvePostAuthTarget]
    split
    · exact .inl List.mem_cons_self
    split
    · exact .inl List.mem_cons_self
    split
    · exact .inl (List.mem_cons_of_mem _ List.mem_cons_self)
    · exact .inr safe
  · rw [resolvePostAuthTarget, sanitizeTarget_of_not_accepted accepted]
    exact .inl List.mem_cons_self

end Stable

end OnlineJudge.Web
