import OnlineJudge.Db.ProblemList
import OnlineJudge.Library.Delimited
import OnlineJudge.Problem.Validation

/-!
# What the filters of the list select

The keyword is searched in the title with `LIKE`, after its wild cards are escaped. A tag
is searched as a part of the comma-separated column. Either is meant as something
simpler: the title contains the keyword, the problem has the tag.
-/

namespace OnlineJudge

namespace Problem

open Db Service

section Keyword

variable {keyword rest title : Bytes} {tokens : List LikeToken}

theorem likeTokens_cons_of_ne {byte : UInt8} (plain : byte ≠ 92) (rest : Bytes) :
    likeTokens (byte :: rest) = (likeTokens rest).map (LikeToken.ofByte byte :: ·) := by
  cases rest with
  | nil => simp [likeTokens, plain]
  | cons next rest => rw [likeTokens, if_neg plain]

theorem likeTokens_escaped (byte : UInt8) (rest : Bytes) :
    likeTokens (92 :: byte :: rest) = (likeTokens rest).map (LikeToken.byte byte :: ·) := by
  rw [likeTokens, if_pos rfl]

theorem escapeLike_cons (byte : UInt8) (keyword : Bytes) :
    escapeLike (byte :: keyword) =
      (if byte = 92 ∨ byte = 37 ∨ byte = 95 then [92, byte] else [byte]) ++
        escapeLike keyword := by
  rw [escapeLike, List.flatMap_cons, ← escapeLike]

/-- Each byte of the keyword becomes a token that stands for this byte alone. -/
theorem likeTokens_escapeLike_append (keyword rest : Bytes) :
    likeTokens (escapeLike keyword ++ rest) =
      (likeTokens rest).map (keyword.map LikeToken.byte ++ ·) := by
  induction keyword with
  | nil => simp [escapeLike]
  | cons byte keyword ih =>
      rw [escapeLike_cons]
      split
      case isTrue =>
        rw [List.append_assoc, List.cons_append, List.singleton_append, likeTokens_escaped, ih,
          Option.map_map]
        rfl
      case isFalse plain =>
        simp only [not_or] at plain
        have literal : LikeToken.ofByte byte = .byte byte := by
          simp [LikeToken.ofByte, plain]
        rw [List.append_assoc, List.singleton_append, likeTokens_cons_of_ne plain.1, literal, ih,
          Option.map_map]
        rfl

/-- The pattern is well formed, and its only wild cards are the two around the keyword. -/
theorem likeTokens_titleLikePattern (keyword : Bytes) :
    likeTokens (titleLikePattern keyword) =
      some (.anything :: (keyword.map LikeToken.byte ++ [.anything])) := by
  have wildcard : LikeToken.ofByte 37 = .anything := rfl
  have closing : likeTokens [37] = some [.anything] := rfl
  rw [titleLikePattern, List.append_assoc, List.singleton_append,
    likeTokens_cons_of_ne (by decide), likeTokens_escapeLike_append, closing, wildcard]
  rfl

theorem likeMatches_anything :
    likeMatches (.anything :: tokens) title = true ↔
      ∃ suffix, suffix <:+ title ∧ likeMatches tokens suffix = true := by
  simp only [likeMatches, List.any_eq_true, List.mem_tails]

theorem likeMatches_literal :
    likeMatches (keyword.map LikeToken.byte ++ [.anything]) title = true ↔
      keyword.map Bytes.toLower <+: title.map Bytes.toLower := by
  induction keyword generalizing title with
  | nil =>
      simp only [List.map_nil, List.nil_append, List.nil_prefix, iff_true]
      exact likeMatches_anything.mpr ⟨[], List.nil_suffix, rfl⟩
  | cons byte keyword ih =>
      cases title with
      | nil => simp [likeMatches]
      | cons first title =>
          simp only [List.map_cons, List.cons_append, likeMatches, Bool.and_eq_true,
            decide_eq_true_eq, List.cons_prefix_cons, ih]
          exact and_congr_left' eq_comm

/-- A part of the mapped list is the image of a part. -/
theorem map_infix_map_iff {α β : Type} (f : α → β) (needle text : List α) :
    needle.map f <:+: text.map f ↔ ∃ suffix, suffix <:+ text ∧ needle.map f <+: suffix.map f := by
  rw [List.infix_iff_prefix_suffix]
  constructor
  · rintro ⟨image, isPrefix, isSuffix⟩
    rcases List.suffix_map_iff.mp isSuffix with ⟨suffix, ofText, rfl⟩
    exact ⟨suffix, ofText, isPrefix⟩
  · rintro ⟨suffix, isSuffix, isPrefix⟩
    exact ⟨suffix.map f, isPrefix, isSuffix.map f⟩

/-- `LIKE` with the pattern of a keyword is the search for the keyword: the pattern is well
formed with every byte of the keyword taken literally, and a title matches exactly when it
contains the keyword up to the case of ASCII letters. -/
theorem keyword_filter_is_substring_search (keyword title : Bytes) :
    likeTokens (titleLikePattern keyword) =
        some (.anything :: (keyword.map LikeToken.byte ++ [.anything])) ∧
      (like (titleLikePattern keyword) title = true ↔
        keyword.map Bytes.toLower <:+: title.map Bytes.toLower) := by
  refine ⟨likeTokens_titleLikePattern keyword, ?_⟩
  rw [like, likeTokens_titleLikePattern, map_infix_map_iff]
  calc likeMatches (.anything :: (keyword.map LikeToken.byte ++ [.anything])) title = true
      ↔ ∃ suffix, suffix <:+ title ∧
          likeMatches (keyword.map LikeToken.byte ++ [.anything]) suffix = true :=
        likeMatches_anything
    _ ↔ ∃ suffix, suffix <:+ title ∧
          keyword.map Bytes.toLower <+: suffix.map Bytes.toLower := by
        simp only [likeMatches_literal]

example : like (titleLikePattern (Bytes.ofString "%_\\")) (Bytes.ofString "100%_\\ b") := by decide

end Keyword

section Tag

variable {tags before after : List Bytes} {tag first : Bytes}

/-- The parts of the filter between its commas are found where they stand as tags. -/
theorem tagMatchNeedle_infix_iff (clean : CleanTags tags) (nonempty : tag ≠ []) :
    tagMatchNeedle tag <:+: [44] ++ Bytes.joinTags tags ++ [44] ↔ tag.splitOn 44 <:+: tags := by
  by_cases empty : tags = []
  · subst empty
    constructor
    · intro found
      have bound := found.length_le
      simp only [tagMatchNeedle, Bytes.joinTags, List.intercalate, List.intersperse_nil,
        List.flatten_nil, List.length_append, List.length_nil, List.length_singleton] at bound
      have positive := List.length_pos_of_ne_nil nonempty
      omega
    · intro found
      exact absurd (List.infix_nil.mp found) (List.splitOn_ne_nil _ _)
  · have needle_eq : tagMatchNeedle tag = Library.enclose 44 (tag.splitOn 44) := by
      rw [Library.enclose_splitOn]
      rfl
    have stored_eq : [44] ++ Bytes.joinTags tags ++ [44] = Library.enclose 44 tags := by
      rw [Library.enclose_eq_intercalate _ empty]
      rfl
    rw [needle_eq, stored_eq]
    exact Library.enclose_infix_iff (List.splitOn_ne_nil _ _)
      (fun part mem => Library.not_mem_of_mem_splitOn mem) clean.noComma

theorem splitOn_infix_iff_mem (noComma : 44 ∉ tag) : tag.splitOn 44 <:+: tags ↔ tag ∈ tags := by
  rw [List.splitOn_eq_singleton noComma]
  exact List.singleton_infix_iff _ _

/-- The filter misses exactly when it lists, with commas, tags that stand next to each other. -/
theorem tag_found_iff_mem_iff (clean : CleanTags tags) (nonempty : tag ≠ []) :
    (tagMatchNeedle tag <:+: [44] ++ Bytes.joinTags tags ++ [44] ↔ tag ∈ tags) ↔
      ¬(44 ∈ tag ∧ tag.splitOn 44 <:+: tags) := by
  rw [tagMatchNeedle_infix_iff clean nonempty]
  by_cases comma : 44 ∈ tag
  · have absent : tag ∉ tags := fun mem => clean.noComma tag mem comma
    simp [comma, absent]
  · rw [splitOn_infix_iff_mem comma]
    simp [comma]

/-- The column is shown up to its first zero byte. -/
theorem columnText_joinTags (noZero : ∀ tag ∈ before, 0 ∉ tag) (zero : 0 ∈ first) :
    Bytes.columnText (Bytes.joinTags (before ++ first :: after)) =
      Bytes.joinTags (before ++ [Bytes.columnText first]) := by
  induction before with
  | nil =>
      cases after with
      | nil => simp [Bytes.joinTags, List.intercalate]
      | cons next after =>
          rw [List.nil_append, Bytes.joinTags, Library.intercalate_cons_cons,
            Bytes.columnText_append_of_mem zero]
          simp [Bytes.joinTags, List.intercalate]
  | cons tag before ih =>
      have noZeroTag := noZero tag List.mem_cons_self
      have noZeroRest := ih fun other mem => noZero other (List.mem_cons_of_mem _ mem)
      have join_cons : ∀ rest : List Bytes, rest ≠ [] →
          Bytes.joinTags (tag :: rest) = tag ++ 44 :: Bytes.joinTags rest := by
        intro rest nonempty
        cases rest with
        | nil => exact absurd rfl nonempty
        | cons next rest => exact Library.intercalate_cons_cons 44 tag next rest
      rw [List.cons_append, join_cons _ (by simp), Bytes.columnText_append noZeroTag,
        Bytes.columnText_cons (by decide), noZeroRest, List.cons_append, join_cons _ (by simp)]

theorem splitTags_joinTags_concat {part : Bytes} (clean : CleanTags before) (noComma : 44 ∉ part) :
    Bytes.splitTags (Bytes.joinTags (before ++ [part])) =
      before ++ [Bytes.trim part].filter (· ≠ []) := by
  have parts_clean : ∀ tag ∈ before ++ [part], 44 ∉ tag := by
    intro tag mem
    rcases List.mem_append.mp mem with old | isPart
    · exact clean.noComma tag old
    · rwa [List.mem_singleton.mp isPart]
  have parts_eq : (Bytes.joinTags (before ++ [part])).splitOn 44 = before ++ [part] :=
    List.splitOn_intercalate 44 parts_clean (by simp)
  rw [Bytes.splitTags, parts_eq, List.map_append, clean.separate.map_trim, List.filter_append,
    clean.separate.filter_nonempty, List.map_singleton]

theorem CleanTags.of_append (clean : CleanTags (before ++ after)) : CleanTags before where
  nonempty := fun tag mem => clean.nonempty tag (List.mem_append_left _ mem)
  trimmed := fun tag mem => clean.trimmed tag (List.mem_append_left _ mem)
  noComma := fun tag mem => clean.noComma tag (List.mem_append_left _ mem)
  distinct := clean.distinct.of_append_left

/-- The first tag with a zero byte is shown up to there, and those behind it are not shown. -/
theorem mem_shown_iff (clean : CleanTags (before ++ first :: after))
    (noZero : ∀ other ∈ before, 0 ∉ other) (zero : 0 ∈ first) (nonempty : tag ≠ []) :
    tag ∈ Bytes.splitTags (Bytes.columnText (Bytes.joinTags (before ++ first :: after))) ↔
      tag ∈ before ∨ tag = Bytes.trim (Bytes.columnText first) := by
  have noComma : 44 ∉ Bytes.columnText first := fun mem =>
    clean.noComma first (by simp) (Bytes.mem_of_mem_columnText mem)
  rw [columnText_joinTags noZero zero, splitTags_joinTags_concat clean.of_append noComma,
    List.mem_append, List.mem_filter, List.mem_singleton]
  simp [nonempty]

/-- Searching for the tag in the column finds it exactly if the problem has it, and a reader of
the problem sees the same: the tag does not list, with commas, tags that stand next to each
other, and if it is none of the tags in front of the first one with a zero byte, then it is
what is shown of that one exactly if it is one of those from there on. -/
def FoundExactly (tag : Bytes) (tags : List Bytes) : Prop :=
  ¬(44 ∈ tag ∧ tag.splitOn 44 <:+: tags) ∧
    ∀ before first after, tags = before ++ first :: after → (∀ other ∈ before, 0 ∉ other) →
      0 ∈ first → tag ∉ before →
        (tag = Bytes.trim (Bytes.columnText first) ↔ tag ∈ first :: after)

/-- The tag is shown exactly if the problem has it. -/
theorem mem_iff_mem_shown_iff (clean : CleanTags tags) (nonempty : tag ≠ []) :
    (tag ∈ tags ↔ tag ∈ Bytes.splitTags (Bytes.columnText (Bytes.joinTags tags))) ↔
      ∀ before first after, tags = before ++ first :: after → (∀ other ∈ before, 0 ∉ other) →
        0 ∈ first → tag ∉ before →
          (tag = Bytes.trim (Bytes.columnText first) ↔ tag ∈ first :: after) := by
  constructor
  · rintro same before first after rfl noZero zero notBefore
    rw [mem_shown_iff clean noZero zero nonempty, List.mem_append] at same
    simp only [notBefore, false_or] at same
    exact same.symm
  · intro condition
    cases found : tags.find? (fun other => decide (0 ∈ other)) with
    | none =>
        have noZero : 0 ∉ Bytes.joinTags tags := by
          intro mem
          rcases Library.mem_of_mem_intercalate mem with isComma | ⟨other, otherMem, inside⟩
          · exact absurd isComma (by decide)
          · exact absurd inside (by simpa using List.find?_eq_none.mp found other otherMem)
        rw [Bytes.columnText_eq_self noZero, splitTags_joinTags clean.separate]
    | some first =>
        rcases List.find?_eq_some_iff_append.mp found with ⟨zero, before, after, rfl, noZero⟩
        rw [mem_shown_iff clean (by simpa using noZero) (by simpa using zero) nonempty,
          List.mem_append]
        by_cases inFront : tag ∈ before
        · simp [inFront]
        · have here := condition before first after rfl (by simpa using noZero)
            (by simpa using zero) inFront
          exact or_congr_right here.symm

/-- Plain texts are found exactly. -/
theorem foundExactly_of_plain (noComma : 44 ∉ tag) (noZero : ∀ other ∈ tags, 0 ∉ other) :
    FoundExactly tag tags := by
  refine ⟨fun separated => noComma separated.1, ?_⟩
  rintro before first after rfl - zero
  exact absurd zero (noZero first (by simp))

/-- The list that a tag alone restricts. -/
def queryByTag (tag : Bytes) (viewerUserId page pageSize : ℤ) : ProblemListQuery where
  visibility := .all
  keyword := []
  difficulty := []
  tag := tag
  viewerUserId := viewerUserId
  page := page
  pageSize := pageSize

theorem queryByTag_selects (nonempty : tag ≠ []) (viewerUserId page pageSize : ℤ)
    (row : ProblemRow) :
    (queryByTag tag viewerUserId page pageSize).selects row = true ↔
      tagMatchNeedle tag <:+: [44] ++ row.tags ++ [44] := by
  simp only [ProblemListQuery.selects, buildWhere, queryByTag, conditionFor, ne_eq, nonempty,
    not_true_eq_false, not_false_eq_true, if_true, if_false, List.nil_append, List.all_cons,
    List.all_nil, Bool.and_true]
  exact decide_eq_true_iff

/-- The tags of a stored problem are read back as they were accepted. The filter by a tag finds
the problem exactly if the problem has the tag, and exactly if the problem shows it, under the
condition above and under no other. -/
theorem tag_filter_exact_iff {value : Json} (accepted : parseTags value = .ok tags)
    {raw : RawListParams} {filter : ListFilter} (_parsed : parseListQuery raw = .ok filter)
    (nonempty : filter.tag ≠ []) (db : Db) {row : ProblemRow}
    (stored : row.tags = Bytes.joinTags tags) (viewerUserId page pageSize : ℤ) :
    (Bytes.splitTags (Bytes.joinTags tags) = tags ∧
      (tagMatchNeedle filter.tag <:+: [44] ++ Bytes.joinTags tags ++ [44] ↔
        filter.tag ∈ tags) ∧
      ((queryByTag filter.tag viewerUserId page pageSize).selects row = true ↔
        filter.tag ∈ (summaryFor db viewerUserId row).tags)) ↔
      FoundExactly filter.tag tags := by
  have clean := parseTags_clean accepted
  have shown_eq : (summaryFor db viewerUserId row).tags =
      Bytes.splitTags (Bytes.columnText (Bytes.joinTags tags)) := by
    rw [summaryFor, stored]
  rw [shown_eq, queryByTag_selects nonempty, stored, FoundExactly,
    ← tag_found_iff_mem_iff clean nonempty, ← mem_iff_mem_shown_iff clean nonempty]
  constructor
  · rintro ⟨-, found, shown⟩
    exact ⟨found, found.symm.trans shown⟩
  · rintro ⟨found, shown⟩
    exact ⟨splitTags_joinTags clean.separate, found, found.trans shown⟩

theorem tag_filter_exact_iff_dp :
    tagMatchNeedle (Bytes.ofString "dp") <:+:
        [44] ++ Bytes.joinTags [Bytes.ofString "graph", Bytes.ofString "dp"] ++ [44] ↔
      Bytes.ofString "dp" ∈ [Bytes.ofString "graph", Bytes.ofString "dp"] :=
  ((tag_filter_exact_iff
    (show parseTags (.array [.string (Bytes.ofString "graph"), .string (Bytes.ofString "dp")]) =
      .ok [Bytes.ofString "graph", Bytes.ofString "dp"] from rfl)
    (show parseListQuery ⟨[], [], Bytes.ofString " dp", [], []⟩ =
      .ok ⟨[], [], Bytes.ofString "dp", 1, 20, .all⟩ from rfl)
    (by decide) {}
    (show (⟨1, [], [], .easy, Bytes.ofString "graph,dp", 1000, 65536, true, none, [50], [50]⟩ :
        ProblemRow).tags =
      Bytes.joinTags [Bytes.ofString "graph", Bytes.ofString "dp"] from rfl) 0 1 20).mpr
    (foundExactly_of_plain (by decide) (by decide))).2.1

/-- The filter finds a problem by two of its tags with a comma between them. -/
theorem tag_filter_finds_neighbours :
    ¬∀ (value : Json) (tags : List Bytes) (raw : RawListParams) (filter : ListFilter),
      parseTags value = .ok tags → parseListQuery raw = .ok filter → filter.tag ≠ [] →
        (tagMatchNeedle filter.tag <:+: [44] ++ Bytes.joinTags tags ++ [44] ↔
          filter.tag ∈ tags) := by
  intro claim
  have same := claim (.array [.string (Bytes.ofString "a"), .string (Bytes.ofString "b")])
    [Bytes.ofString "a", Bytes.ofString "b"] ⟨[], [], Bytes.ofString "a,b", [], []⟩
    ⟨[], [], Bytes.ofString "a,b", 1, 20, .all⟩ rfl rfl (by decide)
  revert same
  decide

end Tag

end Problem

end OnlineJudge
