import OnlineJudge.Problem.Stored
import OnlineJudge.Service.SoloProgram

/-!
# Updates of a part

An update of a problem or of a hidden test case reads the row, puts in what the request
mentions, and writes the row back. What the request does not mention survives if it is
read as it was stored, and a text column is read as a C string.
-/

namespace OnlineJudge

namespace Service

open Judge Db Library Library.SharedConnection Problem

/-- The columns of a problem that the request does not mention are as they were, and so are those
that no request can mention, but for `updated_at`. -/
structure ProblemPatch.Keeps (patch : ProblemPatch) (before after : ProblemRow) : Prop where
  id : after.id = before.id
  title : patch.title = none → after.title = before.title
  description : patch.description = none → after.description = before.description
  difficulty : patch.difficulty = none → after.difficulty = before.difficulty
  tags : patch.tags = none → after.tags = before.tags
  timeLimitMs : patch.timeLimitMs = none → after.timeLimitMs = before.timeLimitMs
  memoryLimitKb : patch.memoryLimitKb = none → after.memoryLimitKb = before.memoryLimitKb
  visible : patch.visible = none → after.visible = before.visible
  seedKey : after.seedKey = before.seedKey
  createdAt : after.createdAt = before.createdAt

/-- The texts that the request does not mention have no zero byte. -/
structure ProblemPatch.ReadsBack (patch : ProblemPatch) (row : ProblemRow) : Prop where
  title : patch.title = none → 0 ∉ row.title
  description : patch.description = none → 0 ∉ row.description
  tags : patch.tags = none → 0 ∉ row.tags

structure TestcasePatch.Keeps (patch : TestcasePatch) (before after : TestcaseRow) : Prop where
  id : after.id = before.id
  problemId : after.problemId = before.problemId
  isSample : after.isSample = before.isSample
  input : patch.input = none → after.input = before.input
  output : patch.output = none → after.output = before.output
  ord : patch.ord = none → after.ord = before.ord

structure TestcasePatch.ReadsBack (patch : TestcasePatch) (row : TestcaseRow) : Prop where
  input : patch.input = none → 0 ∉ row.input
  output : patch.output = none → 0 ∉ row.output

/-- What is left alone by an update of a problem. -/
structure ProblemFrame (patch : ProblemPatch) (id : ℤ) (before after : Db) : Prop where
  problems : List.Forall₂ (fun old new => if old.id = id then patch.Keeps old new else new = old)
    before.problems.rows after.problems.rows
  hidden : after.testcases.rows.filter (·.isSample = false) =
    before.testcases.rows.filter (·.isSample = false)
  elsewhere : after.testcases.rows.filter (·.problemId ≠ id) =
    before.testcases.rows.filter (·.problemId ≠ id)
  samples : patch.samples = none → after.testcases = before.testcases
  users : after.users = before.users
  submissions : after.submissions = before.submissions
  statuses : after.statuses = before.statuses
  inFlight : after.inFlight = before.inFlight

/-- What is left alone by an update of a hidden test case. -/
structure TestcaseFrame (patch : TestcasePatch) (problemId testcaseId : ℤ) (before after : Db) :
    Prop where
  testcases : List.Forall₂
    (fun old new => if old.isHidden problemId testcaseId then patch.Keeps old new else new = old)
    before.testcases.rows after.testcases.rows
  problems : after.problems = before.problems
  users : after.users = before.users
  submissions : after.submissions = before.submissions
  statuses : after.statuses = before.statuses
  inFlight : after.inFlight = before.inFlight

/-- A success keeps what the request does not mention; otherwise nothing changes. -/
def KeepsTheRest (success : Event → Prop) (frame : Db → Db → Prop) (before : Db)
    (events : List Event) (after : Db) : Prop :=
  ((∃ event, events = [event] ∧ success event) → frame before after) ∧
    ((¬∃ event, events = [event] ∧ success event) → after = before)

def ProblemUpdated (event : Event) : Prop := event = .problemUpdated .updated

def TestcaseUpdated (event : Event) : Prop := ∃ ord, event = .testcaseUpdated .updated ord

section Columns

variable {patch : ProblemPatch} {row : ProblemRow}

/-- A text that is not mentioned is written back as it was stored, or it has a zero byte. -/
theorem getD_columnText_iff {mentioned : Option Bytes} {stored : Bytes} :
    (mentioned = none → mentioned.getD (Bytes.columnText stored) = stored) ↔
      (mentioned = none → 0 ∉ stored) := by
  refine forall_congr' fun absent => ?_
  rw [absent, Option.getD_none, Bytes.columnText_eq_self_iff]

theorem ProblemPatch.keeps_iff (isTagText : IsTagText row.tags) (now : Bytes) :
    patch.Keeps row (row.updated (patch.apply row.load) now) ↔ patch.ReadsBack row := by
  have tags : (patch.tags = none →
      (row.updated (patch.apply row.load) now).tags = row.tags) ↔
        (patch.tags = none → 0 ∉ row.tags) := by
    refine forall_congr' fun absent => ?_
    change Bytes.joinTags (patch.tags.getD _) = _ ↔ _
    rw [absent]
    exact isTagText.rewritten_iff
  constructor
  · intro keeps
    exact ⟨getD_columnText_iff.mp keeps.title, getD_columnText_iff.mp keeps.description,
      tags.mp keeps.tags⟩
  · intro readsBack
    have absent : ∀ {α : Type} {field : Option α} (stored : α),
        field = none → field.getD stored = stored := by
      rintro _ _ stored rfl
      rfl
    exact
      { id := rfl
        title := getD_columnText_iff.mpr readsBack.title
        description := getD_columnText_iff.mpr readsBack.description
        difficulty := absent _
        tags := tags.mpr readsBack.tags
        timeLimitMs := absent _
        memoryLimitKb := absent _
        visible := absent _
        seedKey := rfl
        createdAt := rfl }

/-- What an update of a hidden test case writes over the row that it has read. -/
def TestcasePatch.over (patch : TestcasePatch) (row other : TestcaseRow) : TestcaseRow :=
  { other with
    input := patch.input.getD (Bytes.columnText row.input)
    output := patch.output.getD (Bytes.columnText row.output)
    ord := patch.ord.getD row.ord }

theorem TestcasePatch.keeps_iff {patch : TestcasePatch} {row : TestcaseRow} :
    patch.Keeps row (patch.over row row) ↔ patch.ReadsBack row := by
  constructor
  · intro keeps
    exact ⟨getD_columnText_iff.mp keeps.input, getD_columnText_iff.mp keeps.output⟩
  · intro readsBack
    refine ⟨rfl, rfl, rfl, getD_columnText_iff.mpr readsBack.input,
      getD_columnText_iff.mpr readsBack.output, ?_⟩
    intro absent
    change patch.ord.getD row.ord = row.ord
    rw [absent, Option.getD_none]

end Columns

section Conclusions

variable {dump : Dump} {before : Db} {call : Call} {failure success : Event} {allowed : Db → Prop}
  {isSuccess : Event → Prop} {frame : Db → Db → Prop} {condition : Prop}

theorem KeepsTheRest.unchanged {event : Event} (noSuccess : ¬isSuccess event) :
    KeepsTheRest isSuccess frame before [event] before := by
  refine ⟨?_, fun _ => rfl⟩
  rintro ⟨other, same, isSuccess⟩
  rcases List.cons.inj same with ⟨rfl, -⟩
  exact absurd isSuccess noSuccess

theorem KeepsTheRest.of_frame {event : Event} {after : Db} (succeeds : isSuccess event)
    (framed : frame before after) : KeepsTheRest isSuccess frame before [event] after :=
  ⟨fun _ => framed, fun other => absurd ⟨event, rfl, succeeds⟩ other⟩

/-- A call that ends one transaction keeps the rest if and only if what it commits does. -/
theorem ends_keepsTheRest_iff
    (concludes : ∀ fails events final, Solo Db.execute fails (call.body dump 0)
      { committed := before, work := none } events final →
        Concludes fails before failure success allowed events final.committed)
    (fails : ¬isSuccess failure) (succeeds : isSuccess success)
    (frames : ∀ after, allowed after → (frame before after ↔ condition)) :
    Ends dump before call (KeepsTheRest isSuccess frame before) ↔ condition := by
  constructor
  · intro ends
    rcases ends.exists_solo with ⟨events, final, solo, keeps⟩
    have concluded := concludes _ events final solo
    generalize final.committed = after at keeps concluded
    cases concluded with
    | failed never => exact never.elim
    | succeeded isAllowed => exact (frames after isAllowed).mp (keeps.1 ⟨success, rfl, succeeds⟩)
  · intro holds
    apply ends_of_solo
    intro events final solo
    have concluded := concludes _ events final solo
    generalize final.committed = after at concluded ⊢
    cases concluded with
    | failed => exact .unchanged fails
    | succeeded isAllowed => exact .of_frame succeeds ((frames after isAllowed).mpr holds)

/-- A call that finds nothing to do keeps everything. -/
theorem ends_keepsTheRest_nothing {nothing : Event}
    (concludes : ∀ fails events final, Solo Db.execute fails (call.body dump 0)
      { committed := before, work := none } events final →
        Concludes fails before failure nothing (· = before) events final.committed)
    (fails : ¬isSuccess failure) (isNothing : ¬isSuccess nothing) :
    Ends dump before call (KeepsTheRest isSuccess frame before) := by
  apply ends_of_solo
  intro events final solo
  have concluded := concludes _ events final solo
  generalize final.committed = after at concluded ⊢
  cases concluded with
  | failed => exact .unchanged fails
  | succeeded same =>
      rcases same with rfl
      exact .unchanged isNothing

end Conclusions

section Updates

variable {fails : Prop} {base work : Db} {events : List Event} {final : Connection Db} {id : ℤ}
  {patch : ProblemPatch} {now : Bytes} {row : ProblemRow}

/-- The insertion of samples adds samples of the problem, which is there. -/
theorem concludes_insertSamples {allowed : Db → Prop} {failure success : Event} {next : Program}
    {samples : List SampleInput} {ord : ℤ} (has : work.hasProblem id = true)
    (continues : ∀ (table : TestcaseTable) (added : List TestcaseRow),
      table.rows = work.testcases.rows ++ added →
        (∀ row ∈ added, row.problemId = id ∧ row.isSample = true) →
          Solo Db.execute fails next
            { committed := base, work := some { work with testcases := table } } events final →
              Concludes fails base failure success allowed events final.committed)
    (solo : Solo Db.execute fails
      (insertSamples id (Program.rollbackWith failure) next samples ord)
      { committed := base, work := some work } events final) :
    Concludes fails base failure success allowed events final.committed := by
  induction samples generalizing work ord with
  | nil => exact continues work.testcases [] (by simp) (by simp) solo
  | cons sample rest ih =>
      have inserts : Db.execute (.testcases (.insert id ord sample.input sample.output true)) work =
          some (work.testcases.nextId,
            { work with
              testcases :=
                { rows := work.testcases.rows ++
                    [{ id := work.testcases.nextId, problemId := id, ord := ord
                       input := sample.input, output := sample.output, isSample := true }]
                  nextId := work.testcases.nextId + 1 } }) := by
        simp [Db.execute, TestcaseStmt.run, has]
      refine concludes_exec inserts rfl (fun inserted => ?_) solo
      refine ih ?_ ?_ inserted
      · exact has
      · intro table added rows_eq isSample
        refine continues table (_ :: added) (by simpa using rows_eq) ?_
        intro row mem
        rcases List.mem_cons.mp mem with rfl | inRest
        · exact ⟨rfl, rfl⟩
        · exact isSample row inRest

/-- The test cases after an update: samples of the problem at most are exchanged. -/
structure SamplesReplaced (patch : ProblemPatch) (id : ℤ) (before after : TestcaseTable) :
    Prop where
  unmentioned : patch.samples = none → after = before
  others : ∀ keep : TestcaseRow → Bool,
    (∀ row, row.problemId = id → row.isSample = true → keep row = false) →
      after.rows.filter keep = before.rows.filter keep

/-- The samples of the problem are deleted and others added. -/
theorem samplesReplaced_of_append {before after : TestcaseTable} {added : List TestcaseRow}
    (mentioned : patch.samples ≠ none)
    (rows_eq : after.rows = (before.rows.filter fun row =>
      !(decide (row.problemId = id) && row.isSample)) ++ added)
    (isSample : ∀ row ∈ added, row.problemId = id ∧ row.isSample = true) :
    SamplesReplaced patch id before after := by
  refine ⟨fun absent => absurd absent mentioned, fun keep drops => ?_⟩
  have none_added : added.filter keep = [] := by
    rw [List.filter_eq_nil_iff]
    intro row mem
    simp [drops row (isSample row mem).1 (isSample row mem).2]
  rw [rows_eq, List.filter_append, none_added, List.append_nil, List.filter_filter]
  apply List.filter_congr
  intro row _
  by_cases dropped : row.problemId = id ∧ row.isSample = true
  · simp [drops row dropped.1 dropped.2]
  · simp only [not_and, Bool.not_eq_true] at dropped
    by_cases same : row.problemId = id
    · simp [dropped same]
    · simp [same]

/-- What an update commits when it has read the given row. -/
def ProblemReplaced (id : ℤ) (patch : ProblemPatch) (now : Bytes) (row : ProblemRow)
    (before after : Db) : Prop :=
  ∃ table, SamplesReplaced patch id before.testcases table ∧
    after =
      { before with
        problems :=
          { before.problems with
            rows := before.problems.rows.map fun other =>
              if other.id = id then other.updated (patch.apply row.load) now else other }
        testcases := table }

theorem concludes_updateProblem (found : base.problems.rows.find? (·.id = id) = some row)
    (solo : Solo Db.execute fails (updateProblem id patch now)
      { committed := base, work := none } events final) :
    Concludes fails base (.problemUpdated .error) (.problemUpdated .updated)
      (ProblemReplaced id patch now row base) events final.committed := by
  refine concludes_beginWith (fun begun => ?_) solo
  have finds : Db.execute (.problems (.findById id)) base = some (some row.load, base) := by
    simp [Db.execute, ProblemStmt.run, found]
  refine concludes_exec finds rfl (fun read => ?_) begun
  refine concludes_exec rfl rfl (fun updated => ?_) read
  dsimp only at updated
  split at updated
  case h_1 absent =>
    refine concludes_commitWith ⟨base.testcases, ⟨fun _ => rfl, fun _ _ => rfl⟩, rfl⟩ updated
  case h_2 samples mentioned =>
    refine concludes_exec rfl rfl (fun deleted => ?_) updated
    refine concludes_insertSamples ?_ ?_ deleted
    · have isId : row.id = id := by simpa using List.find?_some found
      refine List.any_eq_true.mpr
        ⟨_, List.mem_map_of_mem (List.mem_of_find?_eq_some found), ?_⟩
      rw [if_pos isId]
      exact decide_eq_true isId
    · intro table added rows_eq isSample committed
      refine concludes_commitWith ⟨table, ?_, rfl⟩ committed
      exact samplesReplaced_of_append (by simp [mentioned]) rows_eq isSample

theorem concludes_updateProblem_absent (absent : base.problems.rows.find? (·.id = id) = none)
    (solo : Solo Db.execute fails (updateProblem id patch now)
      { committed := base, work := none } events final) :
    Concludes fails base (.problemUpdated .error) (.problemUpdated .notFound) (· = base) events
      final.committed := by
  refine concludes_beginWith (fun begun => ?_) solo
  have finds : Db.execute (.problems (.findById id)) base = some (none, base) := by
    simp [Db.execute, ProblemStmt.run, absent]
  exact concludes_exec finds rfl (fun read => concludes_nothing rfl read) begun

/-- What an update commits is what was there before, but for what the request mentions, if and only
if the row reads back. -/
theorem problemFrame_iff {before after : Db} (written : before.Written)
    (found : before.problems.rows.find? (·.id = id) = some row)
    (replaced : ProblemReplaced id patch now row before after) :
    ProblemFrame patch id before after ↔
      ∀ stored ∈ before.problems.rows, stored.id = id → patch.ReadsBack stored := by
  rcases replaced with ⟨table, samples, rfl⟩
  have isId : row.id = id := by simpa using List.find?_some found
  have only : ∀ stored ∈ before.problems.rows, stored.id = id → stored = row := by
    intro stored mem same
    exact List.inj_on_of_nodup_map written.problemKeys mem (List.mem_of_find?_eq_some found)
      (same.trans isId.symm)
  have keeps_iff : ∀ stored ∈ before.problems.rows, stored.id = id →
      (patch.Keeps stored (stored.updated (patch.apply row.load) now) ↔
        patch.ReadsBack stored) := by
    intro stored mem same
    rcases only stored mem same with rfl
    exact ProblemPatch.keeps_iff (written.tags stored mem) now
  constructor
  · intro frame stored mem same
    have each := List.forall₂_same.mp (List.forall₂_map_right_iff.mp frame.problems) stored mem
    rw [if_pos same, if_pos same] at each
    exact (keeps_iff stored mem same).mp each
  · intro readsBack
    refine ⟨?_, ?_, ?_, samples.unmentioned, rfl, rfl, rfl, rfl⟩
    · refine List.forall₂_map_right_iff.mpr (List.forall₂_same.mpr ?_)
      intro stored mem
      by_cases same : stored.id = id
      · rw [if_pos same, if_pos same]
        exact (keeps_iff stored mem same).mpr (readsBack stored mem same)
      · rw [if_neg same, if_neg same]
    · apply samples.others
      intro testcase _ isSample
      simp [isSample]
    · apply samples.others
      intro testcase isOf _
      simp [isOf]

theorem ends_updateProblem_iff {dump : Dump} {before : Db} (written : before.Written) :
    Ends dump before (.updateProblem id patch now)
        (KeepsTheRest ProblemUpdated (ProblemFrame patch id) before) ↔
      ∀ row ∈ before.problems.rows, row.id = id → patch.ReadsBack row := by
  cases found : before.problems.rows.find? (·.id = id) with
  | none =>
      have absent : ∀ row ∈ before.problems.rows, row.id ≠ id := by
        simpa using List.find?_eq_none.mp found
      refine iff_of_true ?_ fun row mem isId => absurd isId (absent row mem)
      exact ends_keepsTheRest_nothing
        (fun _ _ _ solo => concludes_updateProblem_absent found solo)
        (by simp [ProblemUpdated]) (by simp [ProblemUpdated])
  | some row =>
      exact ends_keepsTheRest_iff (fun _ _ _ solo => concludes_updateProblem found solo)
        (by simp [ProblemUpdated]) rfl fun after replaced => problemFrame_iff written found replaced

end Updates

section HiddenTestcases

variable {fails : Prop} {base before after : Db} {events : List Event} {final : Connection Db}
  {problemId testcaseId : ℤ} {patch : TestcasePatch} {row : TestcaseRow}

/-- What an update commits when it has read the given row. -/
def TestcaseReplaced (problemId testcaseId : ℤ) (patch : TestcasePatch) (row : TestcaseRow)
    (before after : Db) : Prop :=
  after =
    { before with
      testcases :=
        { before.testcases with
          rows := before.testcases.rows.map fun other =>
            if other.isHidden problemId testcaseId then patch.over row other else other } }

theorem concludes_updateTestcase
    (found : base.testcases.rows.find? (·.isHidden problemId testcaseId) = some row)
    (solo : Solo Db.execute fails (updateTestcase problemId testcaseId patch)
      { committed := base, work := none } events final) :
    Concludes fails base (.testcaseUpdated .error 0)
      (.testcaseUpdated .updated (patch.ord.getD row.ord))
      (TestcaseReplaced problemId testcaseId patch row base) events final.committed := by
  refine concludes_beginWith (fun begun => ?_) solo
  have finds : Db.execute (.testcases (.findHidden problemId testcaseId)) base =
      some
        (some
          { ord := row.ord
            input := Bytes.columnText row.input
            output := Bytes.columnText row.output },
          base) := by
    simp [Db.execute, TestcaseStmt.run, found]
  refine concludes_exec finds rfl (fun read => ?_) begun
  exact concludes_exec rfl rfl (fun updated => concludes_commitWith rfl updated) read

theorem concludes_updateTestcase_absent
    (absent : base.testcases.rows.find? (·.isHidden problemId testcaseId) = none)
    (solo : Solo Db.execute fails (updateTestcase problemId testcaseId patch)
      { committed := base, work := none } events final) :
    Concludes fails base (.testcaseUpdated .error 0) (.testcaseUpdated .notFound 0) (· = base)
      events final.committed := by
  refine concludes_beginWith (fun begun => ?_) solo
  have finds : Db.execute (.testcases (.findHidden problemId testcaseId)) base =
      some (none, base) := by
    simp [Db.execute, TestcaseStmt.run, absent]
  exact concludes_exec finds rfl (fun read => concludes_nothing rfl read) begun

theorem testcaseFrame_iff (written : before.Written)
    (found : before.testcases.rows.find? (·.isHidden problemId testcaseId) = some row)
    (replaced : TestcaseReplaced problemId testcaseId patch row before after) :
    TestcaseFrame patch problemId testcaseId before after ↔
      ∀ stored ∈ before.testcases.rows, stored.isHidden problemId testcaseId →
        patch.ReadsBack stored := by
  rcases replaced with rfl
  have isHidden := List.find?_some found
  have keeps_iff : ∀ stored ∈ before.testcases.rows,
      stored.isHidden problemId testcaseId = true →
        (patch.Keeps stored (patch.over row stored) ↔ patch.ReadsBack stored) := by
    intro stored mem same
    have isRow : stored = row :=
      List.inj_on_of_nodup_map written.testcaseKeys mem (List.mem_of_find?_eq_some found)
        ((TestcaseRow.isHidden_iff.mp same).2.1.trans
          (TestcaseRow.isHidden_iff.mp isHidden).2.1.symm)
    rcases isRow with rfl
    exact TestcasePatch.keeps_iff
  constructor
  · intro frame stored mem same
    have each := List.forall₂_same.mp (List.forall₂_map_right_iff.mp frame.testcases) stored mem
    rw [if_pos same, if_pos same] at each
    exact (keeps_iff stored mem same).mp each
  · intro readsBack
    refine ⟨?_, rfl, rfl, rfl, rfl, rfl⟩
    refine List.forall₂_map_right_iff.mpr (List.forall₂_same.mpr ?_)
    intro stored mem
    by_cases same : stored.isHidden problemId testcaseId = true
    · rw [if_pos same, if_pos same]
      exact (keeps_iff stored mem same).mpr (readsBack stored mem same)
    · rw [if_neg same, if_neg same]

theorem ends_updateTestcase_iff {dump : Dump} (written : before.Written) :
    Ends dump before (.updateTestcase problemId testcaseId patch)
        (KeepsTheRest TestcaseUpdated (TestcaseFrame patch problemId testcaseId) before) ↔
      ∀ row ∈ before.testcases.rows, row.isHidden problemId testcaseId →
        patch.ReadsBack row := by
  cases found : before.testcases.rows.find? (·.isHidden problemId testcaseId) with
  | none =>
      have absent := List.find?_eq_none.mp found
      refine iff_of_true ?_ fun row mem isHidden => absurd isHidden (absent row mem)
      exact ends_keepsTheRest_nothing
        (fun _ _ _ solo => concludes_updateTestcase_absent found solo)
        (by simp [TestcaseUpdated]) (by simp [TestcaseUpdated])
  | some row =>
      exact ends_keepsTheRest_iff (fun _ _ _ solo => concludes_updateTestcase found solo)
        (by simp [TestcaseUpdated]) ⟨_, rfl⟩ fun after replaced =>
          testcaseFrame_iff written found replaced

end HiddenTestcases

section Runs

variable {dump : Dump} {id : ThreadId} {call : Call} {seen : Db} {events : List Event}

/-- The column `tags` holds texts of tags after every statement. -/
def writtenContract (dump : Dump) : Contract (server dump) where
  Inv := Written
  Basic := Written
  Grows := fun _ _ => True
  Used := WritesTagText
  Bare := WritesTagText
  Observed := fun _ _ => false
  Promise := fun _ _ _ _ => True
  grows_refl := fun _ => trivial
  grows_trans := fun _ _ => trivial
  bare_used := fun writes => writes
  used_keeps := fun writes written executed => ⟨written.execute writes executed, trivial⟩
  bare_inv := fun writes written _ executed => written.execute writes executed
  promise_mono := fun _ _ => trivial

theorem safe_of_uses {program : Program} {phase : Phase Db}
    (uses : Uses WritesTagText WritesTagText (fun _ => True) program (Contract.forget phase))
    (keeps : Contract.PhaseKeeps (writtenContract dump) phase) :
    (writtenContract dump).Safe ((writtenContract dump).Promise id call) program phase seen
      events :=
  Contract.Uses.safe
    (fun _ writes => ⟨writes, fun _ _ _ _ written executed =>
      Written.execute written writes executed⟩)
    (fun _ writes => writes) (fun _ _ _ _ _ => trivial) phase uses keeps trivial

theorem createProblem_written {data : ProblemData} (now : Bytes)
    (separate : SeparateTags data.tags) :
    (writtenContract dump).Safe ((writtenContract dump).Promise id call) (createProblem data now)
      .idle seen events := by
  refine safe_beginWith (fun db _ _ _ => ?_) trivial
  refine ⟨separate.isTagText, ?_, safe_rollbackWith trivial⟩
  intro later problemId after written _ executed
  have inserted : after.Written := by
    refine ((writtenContract dump).used_keeps ?_ written executed).1
    exact separate.isTagText
  apply safe_of_uses
  · exact insertSamples_uses (fun _ => trivial) (uses_rollbackWith trivial)
      (uses_commitWith trivial trivial) _ _
  · exact ⟨inserted, inserted⟩

theorem updateProblem_written {problemId : ℤ} {patch : ProblemPatch} (now : Bytes)
    (separate : ∀ tags ∈ patch.tags, SeparateTags tags) :
    (writtenContract dump).Safe ((writtenContract dump).Promise id call)
      (updateProblem problemId patch now) .idle seen events := by
  refine safe_beginWith (fun db _ _ _ => ?_) trivial
  refine ⟨trivial, ?_, safe_rollbackWith trivial⟩
  rintro later (_ | record) after - - executed
  · exact safe_rollbackWith trivial
  have stored : SeparateTags record.tags := by
    obtain ⟨row, -, rfl⟩ :=
      Option.map_eq_some_iff.mp (Prod.mk.inj (Option.some.inj executed)).1
    exact splitTags_separate _
  have writes : WritesTagText (.problems (.update problemId (patch.apply record) now)) := by
    apply SeparateTags.isTagText
    cases mentioned : patch.tags with
    | none => exact stored
    | some tags => exact separate tags mentioned
  refine ⟨writes, ?_, safe_rollbackWith trivial⟩
  intro later _ after written _ executed
  have updated := written.execute writes executed
  apply safe_of_uses
  · dsimp only
    split
    · exact uses_commitWith trivial trivial
    · refine ⟨trivial, ?_⟩
      rintro (_ | _)
      · exact uses_rollbackWith trivial
      · exact insertSamples_uses (fun _ => trivial) (uses_rollbackWith trivial)
          (uses_commitWith trivial trivial) _ _
  · exact ⟨updated, updated⟩

/-- The requests that write problems and test cases are accepted by their parsers. -/
def AcceptedRequest : Label → Prop
  | .start (.createProblem data _) => ∃ body, parseCreateProblem body = .ok data
  | .start (.updateProblem _ patch _) => ∃ body, parseUpdateProblem body = .ok patch
  | .start (.createTestcase _ data) => ∃ body, parseCreateTestcase body = .ok data
  | .start (.updateTestcase _ _ patch) => ∃ body, parseUpdateTestcase body = .ok patch
  | _ => True

/-- The other calls write no tags. -/
theorem serves_written (accepted : AcceptedRequest (.start call)) :
    (writtenContract dump).Serves id call := by
  have others : (∀ stmt, call.inside stmt → WritesTagText stmt) →
      (∀ stmt, call.outside stmt → WritesTagText stmt) →
        (writtenContract dump).Serves id call := by
    intro inside outside
    exact Contract.Uses.serves (Call.uses dump id call)
      (fun stmt isInside => ⟨inside stmt isInside, fun _ _ _ _ written executed =>
        Written.execute written (inside stmt isInside) executed⟩)
      outside (fun _ _ _ _ _ => trivial) (fun _ => trivial)
  have outside : ∀ stmt, call.outside stmt → WritesTagText stmt := by
    intro stmt issued
    unfold WritesTagText
    split
    · cases call <;> exact issued.elim
    · cases call <;> exact issued.elim
    · trivial
  cases call with
  | createProblem data now =>
      rcases accepted with ⟨body, accepted⟩
      exact fun _ _ _ => ⟨trivial,
        createProblem_written now (parseCreateProblem_separate accepted)⟩
  | updateProblem problemId patch now =>
      rcases accepted with ⟨body, accepted⟩
      exact fun _ _ _ => ⟨trivial,
        updateProblem_written now (parseUpdateProblem_separate accepted)⟩
  | handle task judge now =>
      refine others (fun stmt inside => ?_) outside
      simp only [Call.inside] at inside
      unfold WritesTagText
      split
      · split at inside <;> exact inside.elim
      · split at inside <;> exact inside.elim
      · trivial
  | _ =>
      refine others (fun stmt inside => ?_) outside
      unfold WritesTagText
      split
      · exact inside.elim
      · exact inside.elim
      · trivial

theorem written_of_reaches {start : Db} {state : State} (written : start.Written)
    (reaches : (server dump).system.Reaches (fun _ label => AcceptedRequest label)
      (.initial start) state) : state.committed.Written := by
  have sound : (writtenContract dump).Sound state := by
    refine Contract.Sound.of_reaches reaches (.initial written written) ?_ ?_
    · intro before call accepted
      exact serves_written accepted
    · rintro before label - ⟨-, _, -, _, -, observed⟩
      cases observed
  exact sound.committed_inv

/-- In every run an update keeps what it does not mention if and only if the texts that it does not
mention have no zero byte. -/
theorem partial_update_keeps_the_rest_iff {start : Db} {state : State} (written : start.Written)
    (reaches : (server dump).system.Reaches (fun _ label => AcceptedRequest label)
      (.initial start) state) :
    (∀ (problemId : ℤ) (patch : ProblemPatch) (now : Bytes),
      Ends dump state.committed (.updateProblem problemId patch now)
          (KeepsTheRest ProblemUpdated (ProblemFrame patch problemId) state.committed) ↔
        ∀ row ∈ state.committed.problems.rows, row.id = problemId → patch.ReadsBack row) ∧
    ∀ (problemId testcaseId : ℤ) (patch : TestcasePatch),
      Ends dump state.committed (.updateTestcase problemId testcaseId patch)
          (KeepsTheRest TestcaseUpdated (TestcaseFrame patch problemId testcaseId)
            state.committed) ↔
        ∀ row ∈ state.committed.testcases.rows, row.isHidden problemId testcaseId →
          patch.ReadsBack row := by
  have stored := written_of_reaches written reaches
  exact ⟨fun _ _ _ => ends_updateProblem_iff stored, fun _ _ _ => ends_updateTestcase_iff stored⟩

/-- A problem with a hidden test case, all texts of which read back. -/
def plainProblem : Db where
  problems :=
    { rows :=
        [{ id := 1
           title := [97]
           description := [98, 10]
           difficulty := .easy
           tags := [120, 44, 121]
           timeLimitMs := 2000
           memoryLimitKb := 65536
           visible := true
           createdAt := [50]
           updatedAt := [50] }]
      nextId := 2 }
  testcases :=
    { rows :=
        [{ id := 1, problemId := 1, ord := 0, input := [49], output := [50], isSample := false }]
      nextId := 2 }

theorem partial_update_keeps_the_rest_iff_plain :
    Ends (fun _ => some []) plainProblem (.updateProblem 1 { visible := some false } [51])
        (KeepsTheRest ProblemUpdated (ProblemFrame { visible := some false } 1) plainProblem) ∧
      Ends (fun _ => some []) plainProblem (.updateTestcase 1 1 { ord := some 7 })
        (KeepsTheRest TestcaseUpdated (TestcaseFrame { ord := some 7 } 1 1) plainProblem) := by
  have written : plainProblem.Written :=
    { problemKeys := by decide
      problemIds := by decide
      tags := by decide
      testcaseKeys := by decide
      testcaseIds := by decide }
  have both := partial_update_keeps_the_rest_iff written
    (.refl : (server fun _ => some []).system.Reaches (fun _ label => AcceptedRequest label)
      (.initial plainProblem) (.initial plainProblem))
  constructor
  · refine (both.1 1 _ [51]).mpr ?_
    intro row mem _
    rw [List.mem_singleton.mp mem]
    exact ⟨by decide, by decide, by decide⟩
  · refine (both.2 1 1 _).mpr ?_
    intro row mem _
    rw [List.mem_singleton.mp mem]
    exact ⟨by decide, by decide⟩

/-- `{"title": "a\u0000b", "difficulty": "easy"}`. -/
def zeroTitle : Json :=
  .object
    [(Bytes.ofString "title", .string [97, 0, 98]),
      (Bytes.ofString "difficulty", .string (Bytes.ofString "easy"))]

def zeroTitleData : ProblemData where
  title := [97, 0, 98]
  description := []
  difficulty := .easy
  tags := []
  timeLimitMs := 2000
  memoryLimitKb := 65536
  visible := true
  samples := []

/-- `{"visible": false}`. -/
def hideProblem : Json := .object [(Bytes.ofString "visible", .bool false)]

def zeroTitleSchedule : List Label :=
  .start (.createProblem zeroTitleData [50]) :: List.replicate 6 (.run 0 true)

/-- The problem loses the rest of its title when it is hidden. -/
theorem partial_update_cuts_title :
    ¬∀ state : State, (server fun _ => some []).system.Reaches
        (fun _ label => AcceptedRequest label) (.initial {}) state →
      ∀ (problemId : ℤ) (body : Json) (patch : ProblemPatch) (now : Bytes),
        parseUpdateProblem body = .ok patch →
          Ends (fun _ => some []) state.committed (.updateProblem problemId patch now)
            (KeepsTheRest ProblemUpdated (ProblemFrame patch problemId) state.committed) := by
  intro claim
  have execution : ∃ state : State,
      (server fun _ => some []).system.run (.initial {}) zeroTitleSchedule = some state ∧
        ∃ row ∈ state.committed.problems.rows, row.id = 1 ∧ row.title = [97, 0, 98] :=
    ⟨_, rfl, _, List.mem_singleton.mpr rfl, rfl, rfl⟩
  rcases execution with ⟨state, execution, row, mem, isId, title⟩
  have created : AcceptedRequest (.start (.createProblem zeroTitleData [50])) := ⟨zeroTitle, rfl⟩
  have accepted : ∀ label ∈ zeroTitleSchedule, AcceptedRequest label := by
    intro label isLabel
    rcases List.mem_cons.mp isLabel with rfl | isRun
    · exact created
    · rw [List.eq_of_mem_replicate isRun]
      trivial
  have reaches := TransitionSystem.reaches_of_run
    (TransitionSystem.admits_of_forall_mem accepted _) execution
  have start : Written {} :=
    { problemKeys := List.nodup_nil
      problemIds := by simp
      tags := by simp
      testcaseKeys := List.nodup_nil
      testcaseIds := by simp }
  have ends := claim state reaches 1 hideProblem { visible := some false } [] rfl
  have readsBack := (ends_updateProblem_iff (written_of_reaches start reaches)).mp ends row mem isId
  have noZero := readsBack.title rfl
  rw [title] at noZero
  exact noZero (by decide)

end Runs

end Service

end OnlineJudge
