import ObjectStore.Conformance.Catalogue
import ObjectStore.Proofs.Reading
import ObjectStore.Simulation.SharedClock

/-!
Tests that know nothing of each other. A run makes one service for every test, and what it reports is put together of
what the tests do alone, each on a service that nothing has used before. This holds as long as everything that breaks
off does so in the task of a test: whatever else breaks off takes the run with it.
-/

namespace ObjectStore.Conformance

variable {ω : Type}

/-! ### The end of a test -/

inductive Ending where
  | passed
  | failed (message : String)
  | escaped (payload : Payload)
deriving DecidableEq, Repr

def Ending.message? : Ending → Option String
  | .failed message => some message
  | _ => none

/-- Whatever broke off was held by the task of the test. -/
def Ending.IsHeld (ending : Ending) : Prop :=
  ∀ payload, ending ≠ .escaped payload

def Payload.ending : Payload → Ending
  | .text message => .failed message
  | .unreadable => .failed "panic"
  | .bursting left => .escaped left

namespace Test

/-- How a test ends that has a world for itself, and what it makes of it. -/
def alone (fresh : ω) (test : Test ω) : Ending × ω :=
  match test.call fresh with
  | .error payload after => (.escaped payload, after)
  | .ok task called => match task called with
    | .ok _ after => (.passed, after)
    | .error payload after => (payload.ending, after)

def ending (fresh : ω) (test : Test ω) : Ending :=
  (test.alone fresh).1

def left (fresh : ω) (test : Test ω) : ω :=
  (test.alone fresh).2

def IsHeld (fresh : ω) (test : Test ω) : Prop :=
  (test.ending fresh).IsHeld

end Test

/-! ### Reports -/

namespace Report

def ofEndings (endings : List (String × Ending)) : Report where
  passed := (endings.filter fun entry => entry.2 = .passed).map Prod.fst
  failed := endings.filterMap fun entry => entry.2.message?.map (entry.1, ·)

variable (endings : List (String × Ending))

theorem ofEndings_append (more : List (String × Ending)) : ofEndings (endings ++ more) =
    ⟨(ofEndings endings).passed ++ (ofEndings more).passed, (ofEndings endings).failed ++ (ofEndings more).failed⟩ := by
  simp only [ofEndings, List.filter_append, List.map_append, List.filterMap_append]

theorem names_failed (held : ∀ entry ∈ endings, entry.2.IsHeld) :
    (ofEndings endings).failed.map Prod.fst = (endings.filter fun entry => entry.2 ≠ .passed).map Prod.fst := by
  induction endings with
  | nil => rfl
  | cons entry rest ih =>
      have later := ih fun other member => held other (List.mem_cons_of_mem _ member)
      rcases entry with ⟨name, _ | message | payload⟩
      · exact later
      · exact congrArg (name :: ·) later
      · exact absurd rfl (held _ List.mem_cons_self payload)

theorem passed_append_failed_perm (held : ∀ entry ∈ endings, entry.2.IsHeld) :
    ((ofEndings endings).passed ++ (ofEndings endings).failed.map Prod.fst).Perm (endings.map Prod.fst) := by
  rw [names_failed endings held, ofEndings, ← List.map_append]
  simp only [ne_eq, decide_not]
  exact (List.filter_append_perm _ endings).map Prod.fst

theorem isSuccess_ofEndings (held : ∀ entry ∈ endings, entry.2.IsHeld) :
    (ofEndings endings).isSuccess = true ↔ ∀ entry ∈ endings, entry.2 = .passed := by
  simp only [isSuccess, ofEndings, List.isEmpty_iff, List.filterMap_eq_nil_iff, Option.map_eq_none_iff]
  refine forall₂_congr fun entry member => ?_
  rcases entry with ⟨name, _ | message | payload⟩
  · simp [Ending.message?]
  · simp [Ending.message?]
  · exact absurd rfl (held _ member payload)

def add (report : Report) (name : String) : Ending → Work ω Report
  | .passed => pure { report with passed := report.passed ++ [name] }
  | .failed message => pure { report with failed := report.failed ++ [(name, message)] }
  | .escaped payload => throw payload

theorem record_error (report : Report) (name : String) (payload : Payload) :
    report.record name (.error payload) = (report.add name payload.ending : Work ω Report) := by
  cases payload <;> rfl

theorem add_of_held (name : String) {ending : Ending} (held : ending.IsHeld) (world : ω) :
    (ofEndings endings).add name ending world = .ok (ofEndings (endings ++ [(name, ending)])) world := by
  rw [ofEndings_append]
  cases ending with
  | passed => simp [add, ofEndings, Ending.message?]; rfl
  | failed message => simp [add, ofEndings, Ending.message?]; rfl
  | escaped payload => exact absurd rfl (held payload)

variable {endings}

theorem sublist_ofEndings {fewer : List (String × Ending)} (sublist : fewer.Sublist endings) :
    (ofEndings fewer).passed.Sublist (ofEndings endings).passed ∧
      (ofEndings fewer).failed.Sublist (ofEndings endings).failed :=
  ⟨(sublist.filter _).map _, sublist.filterMap _⟩

theorem perm_ofEndings {others : List (String × Ending)} (perm : others.Perm endings) :
    (ofEndings others).passed.Perm (ofEndings endings).passed ∧
      (ofEndings others).failed.Perm (ofEndings endings).failed :=
  ⟨(perm.filter _).map _, perm.filterMap _⟩

end Report

/-! ### Runs -/

namespace Registry

theorem observing_eq (task : Work ω Unit) (world : ω) :
    observing task world = match task world with
      | .ok _ after => .ok (.ok ()) after
      | .error payload after => .ok (.error payload) after := by
  change EStateM.tryCatch (EStateM.bind task _) _ world = _
  unfold EStateM.tryCatch EStateM.bind
  cases task world <;> rfl

theorem runTest_eq (provide : ω → ω) (suite : String) (report : Report) (test : Test ω) (world : ω) :
    runTest provide suite report test world =
      report.add (suite ++ "." ++ test.name) (test.ending (provide world)) (test.left (provide world)) := by
  change EStateM.bind test.call _ (provide world) = _
  unfold EStateM.bind Test.ending Test.left Test.alone
  cases test.call (provide world) with
  | error payload after => rfl
  | ok task called =>
      change EStateM.bind (observing task) _ called = _
      unfold EStateM.bind
      rw [observing_eq]
      dsimp only
      cases task called with
      | ok _ after => rfl
      | error payload after => exact congrFun (report.record_error _ payload) after

end Registry

/-! ### A world for every test -/

def Suite.map {σ : Type} (change : Test ω → Test σ) (suite : Suite ω) : Suite σ :=
  ⟨suite.name, suite.tests.map change⟩

def Registry.map {σ : Type} (change : Test ω → Test σ) (registry : Registry ω) : Registry σ :=
  ⟨registry.suites.map (Suite.map change)⟩

def Suite.endings (fresh : ω) (suite : Suite ω) : List (String × Ending) :=
  suite.tests.map fun test => (suite.name ++ "." ++ test.name, test.ending fresh)

structure Isolates {σ : Type} (fresh : ω) (provide : σ → σ) (change : Test ω → Test σ) : Prop where
  name : ∀ test, (change test).name = test.name
  ending : ∀ test world, (change test).ending (provide world) = test.ending fresh

namespace Isolates

variable {σ : Type} {fresh : ω} {provide : σ → σ} {change : Test ω → Test σ} (isolates : Isolates fresh provide change)

def last (provide : σ → σ) (change : Test ω → Test σ) (tests : List (Test ω)) (world : σ) : σ :=
  tests.foldl (fun reached test => (change test).left (provide reached)) world

include isolates

theorem runTests_of_held (suite : String) {tests : List (Test ω)} (held : ∀ test ∈ tests, test.IsHeld fresh)
    (before : List (String × Ending)) (world : σ) :
    (tests.map change).foldlM (Registry.runTest provide suite) (.ofEndings before) world =
      .ok (.ofEndings (before ++ tests.map fun test => (suite ++ "." ++ test.name, test.ending fresh)))
        (last provide change tests world) := by
  induction tests generalizing before world with
  | nil =>
      rw [List.map_nil, List.map_nil, List.append_nil]
      rfl
  | cons test rest ih =>
      have ran : Registry.runTest provide suite (.ofEndings before) (change test) world =
          .ok (.ofEndings (before ++ [(suite ++ "." ++ test.name, test.ending fresh)]))
            ((change test).left (provide world)) := by
        rw [Registry.runTest_eq, isolates.name, isolates.ending]
        exact Report.add_of_held before _ (held test List.mem_cons_self) _
      rw [List.map_cons, List.foldlM_cons, bind_of_ok ran,
        ih fun other member => held other (List.mem_cons_of_mem _ member)]
      simp [last]

theorem runSuite_of_held {suite : Suite ω} (held : ∀ test ∈ suite.tests, test.IsHeld fresh)
    (before : List (String × Ending)) (world : σ) :
    Registry.runSuite provide (.ofEndings before) (suite.map change) world =
      .ok (.ofEndings (before ++ suite.endings fresh)) (last provide change suite.tests world) :=
  isolates.runTests_of_held suite.name held before world

theorem runSuite_of_escaped {suite : Suite ω} {before after : List (Test ω)} {test : Test ω} {payload : Payload}
    (tests : suite.tests = before ++ test :: after) (held : ∀ test ∈ before, test.IsHeld fresh)
    (escaped : test.ending fresh = .escaped payload) (earlier : List (String × Ending)) (world : σ) :
    Registry.runSuite provide (.ofEndings earlier) (suite.map change) world =
      .error payload (last provide change (before ++ [test]) world) := by
  have ran := isolates.runTests_of_held suite.name held earlier world
  have broke (report : Report) (reached : σ) : Registry.runTest provide suite.name report (change test) reached =
      .error payload ((change test).left (provide reached)) := by
    rw [Registry.runTest_eq, isolates.ending, escaped]
    rfl
  rw [Registry.runSuite, Suite.map, tests, List.map_append, List.map_cons, List.foldlM_append, bind_of_ok ran,
    List.foldlM_cons, bind_of_error (broke _ _)]
  simp [last]

theorem runSuites_of_held {suites : List (Suite ω)}
    (held : ∀ suite ∈ suites, ∀ test ∈ suite.tests, test.IsHeld fresh) (before : List (String × Ending)) (world : σ) :
    (suites.map (Suite.map change)).foldlM (Registry.runSuite provide) (.ofEndings before) world =
      .ok (.ofEndings (before ++ suites.flatMap (Suite.endings fresh)))
        (last provide change (suites.flatMap Suite.tests) world) := by
  induction suites generalizing before world with
  | nil =>
      rw [List.map_nil, List.flatMap_nil, List.append_nil]
      rfl
  | cons suite rest ih =>
      have ran := isolates.runSuite_of_held (held suite List.mem_cons_self) before world
      rw [List.map_cons, List.foldlM_cons, bind_of_ok ran,
        ih fun other member => held other (List.mem_cons_of_mem _ member)]
      simp [last]

theorem run_of_held {registry : Registry ω}
    (held : ∀ suite ∈ registry.suites, ∀ test ∈ suite.tests, test.IsHeld fresh) (world : σ) :
    (registry.map change).run provide world =
      .ok (.ofEndings (registry.suites.flatMap (Suite.endings fresh)))
        (last provide change (registry.suites.flatMap Suite.tests) world) :=
  isolates.runSuites_of_held held [] world

theorem run_of_escaped {registry : Registry ω} {front behind : List (Suite ω)} {suite : Suite ω}
    {before after : List (Test ω)} {test : Test ω} {payload : Payload}
    (suites : registry.suites = front ++ suite :: behind) (tests : suite.tests = before ++ test :: after)
    (heldFront : ∀ earlier ∈ front, ∀ test ∈ earlier.tests, test.IsHeld fresh)
    (heldBefore : ∀ test ∈ before, test.IsHeld fresh) (escaped : test.ending fresh = .escaped payload) (world : σ) :
    (registry.map change).run provide world =
      .error payload (last provide change (front.flatMap Suite.tests ++ (before ++ [test])) world) := by
  have ran := isolates.runSuites_of_held heldFront [] world
  have broke := isolates.runSuite_of_escaped tests heldBefore escaped
  rw [Registry.run, Registry.map, suites, List.map_append, List.map_cons, List.foldlM_append]
  refine (bind_of_ok ran).trans ?_
  rw [List.foldlM_cons, bind_of_error (broke _ _)]
  simp [last]

end Isolates

/-! ### All worlds of a run -/

def Work.onLatest {α : Type} (work : Work ω α) : Work (List ω) α
  | [] => .error .unreadable []
  | world :: earlier => match work world with
    | .ok result after => .ok result (after :: earlier)
    | .error payload after => .error payload (after :: earlier)

def Test.onLatest (test : Test ω) : Test (List ω) :=
  ⟨test.name, Work.onLatest <$> test.call.onLatest⟩

theorem Test.alone_onLatest (fresh : ω) (test : Test ω) (worlds : List ω) :
    test.onLatest.alone (fresh :: worlds) = (test.ending fresh, test.left fresh :: worlds) := by
  have called : test.onLatest.call (fresh :: worlds) = match test.call fresh with
      | .ok task after => .ok task.onLatest (after :: worlds)
      | .error payload after => .error payload (after :: worlds) := by
    change EStateM.map Work.onLatest test.call.onLatest (fresh :: worlds) = _
    unfold EStateM.map
    dsimp only [Work.onLatest]
    cases test.call fresh <;> rfl
  unfold ending left alone
  rw [called]
  cases test.call fresh with
  | error payload after => rfl
  | ok task after =>
      dsimp only [Work.onLatest]
      cases task after <;> rfl

theorem isolates_onLatest (fresh : ω) : Isolates fresh (fresh :: ·) Test.onLatest where
  name _ := rfl
  ending test worlds := congrArg Prod.fst (test.alone_onLatest fresh worlds)

theorem last_onLatest (fresh : ω) (tests : List (Test ω)) (worlds : List ω) :
    Isolates.last (fresh :: ·) Test.onLatest tests worlds = (tests.map (Test.left fresh)).reverse ++ worlds := by
  induction tests generalizing worlds with
  | nil => rfl
  | cons test rest ih =>
      have first : test.onLatest.left (fresh :: worlds) = test.left fresh :: worlds :=
        congrArg Prod.snd (test.alone_onLatest fresh worlds)
      rw [Isolates.last, List.foldl_cons, first]
      refine (ih _).trans ?_
      simp

theorem isolates_discarding (fresh : ω) : Isolates fresh (fun _ => fresh) id where
  name _ := rfl
  ending _ _ := rfl

namespace Registry

variable (fresh : ω) (registry : Registry ω)

/-- A run that makes a world before every test. All of them are kept, with the last one first. -/
def runApart : EStateM.Result Payload (List ω) Report :=
  (registry.map Test.onLatest).run (fresh :: ·) []

def IsHeld : Prop :=
  ∀ suite ∈ registry.suites, ∀ test ∈ suite.tests, test.IsHeld fresh

def only (suite : String) (test : Test ω) : Registry ω :=
  ⟨[⟨suite, [test]⟩]⟩

def placed : List (String × Test ω) :=
  registry.suites.flatMap fun suite => suite.tests.map (suite.name, ·)

variable {fresh registry}

theorem map_id (registry : Registry ω) : registry.map id = registry := by
  have same (suite : Suite ω) : suite.map id = suite := congrArg (Suite.mk suite.name) (List.map_id _)
  exact congrArg mk ((List.map_congr_left fun suite _ => same suite).trans (List.map_id _))

theorem isHeld_iff_placed : registry.IsHeld fresh ↔ ∀ place ∈ registry.placed, place.2.IsHeld fresh := by
  simp only [IsHeld, placed, List.forall_mem_flatMap, List.forall_mem_map]

theorem endings_eq_placed : registry.suites.flatMap (Suite.endings fresh) =
    registry.placed.map fun place => (place.1 ++ "." ++ place.2.name, place.2.ending fresh) := by
  simp only [placed, List.map_flatMap, List.map_map, Function.comp_def]
  rfl

theorem runApart_of_held (held : registry.IsHeld fresh) : registry.runApart fresh =
    .ok (.ofEndings (registry.suites.flatMap (Suite.endings fresh)))
      (registry.suites.flatMap fun suite => suite.tests.map (Test.left fresh)).reverse := by
  rw [runApart, (isolates_onLatest fresh).run_of_held held, last_onLatest, List.map_flatMap, List.append_nil]

theorem run_discarding_of_held (held : registry.IsHeld fresh) (world : ω) : ∃ left,
    registry.run (fun _ => fresh) world = .ok (.ofEndings (registry.suites.flatMap (Suite.endings fresh))) left := by
  have ran := (isolates_discarding fresh).run_of_held held world
  rw [map_id] at ran
  exact ⟨_, ran⟩

end Registry

/-! ### What a run accounts for -/

/-- What a run with a world for every test reports, and the worlds in the order in which they were made. -/
structure IsAccount (fresh : ω) (registry : Registry ω) (report : Report) (worlds : List ω) : Prop where
  worlds : worlds = registry.suites.flatMap fun suite => suite.tests.map fun test => test.left fresh
  passed : report.passed = registry.suites.flatMap fun suite =>
    (suite.tests.filter fun test => test.ending fresh = .passed).map fun test => suite.name ++ "." ++ test.name
  failed : report.failed = registry.suites.flatMap fun suite => suite.tests.filterMap fun test =>
    (test.ending fresh).message?.map (suite.name ++ "." ++ test.name, ·)
  names_failed : report.failed.map Prod.fst = registry.suites.flatMap fun suite =>
    (suite.tests.filter fun test => test.ending fresh ≠ .passed).map fun test => suite.name ++ "." ++ test.name
  each : (report.passed ++ report.failed.map Prod.fst).Perm
    (registry.suites.flatMap fun suite => suite.tests.map fun test => suite.name ++ "." ++ test.name)
  isSuccess : report.isSuccess = true ↔
    ∀ suite ∈ registry.suites, ∀ test ∈ suite.tests, test.ending fresh = .passed

/-- A report to which every test adds what it adds to the report of a run without the others. -/
structure IsIsolated (fresh : ω) (registry : Registry ω) (report : Report) : Prop where
  joined : ∃ alone : Suite ω → Test ω → Report,
    (∀ suite test, suite ∈ registry.suites → test ∈ suite.tests →
      ∃ worlds, (Registry.only suite.name test).runApart fresh = .ok (alone suite test) worlds) ∧
    (report.passed = registry.suites.flatMap fun suite => suite.tests.flatMap fun test => (alone suite test).passed) ∧
    report.failed = registry.suites.flatMap fun suite => suite.tests.flatMap fun test => (alone suite test).failed
  removed : ∀ other : Registry ω, other.placed.Sublist registry.placed →
    ∃ fewer worlds, other.runApart fresh = .ok fewer worlds ∧
      fewer.passed.Sublist report.passed ∧ fewer.failed.Sublist report.failed
  reordered : ∀ other : Registry ω, other.placed.Perm registry.placed →
    ∃ same worlds, other.runApart fresh = .ok same worlds ∧
      same.passed.Perm report.passed ∧ same.failed.Perm report.failed
  discarded : ∀ world, ∃ left, registry.run (fun _ => fresh) world = .ok report left

/-- The run has come to its first test that is not held, with a world for every test up to there, and has broken off
with what the test broke off with. -/
def IsCutShort (fresh : ω) (registry : Registry ω) (payload : Payload) (worlds : List ω) : Prop :=
  ∃ front suite behind before test after,
    registry.suites = front ++ suite :: behind ∧ suite.tests = before ++ test :: after ∧
    (∀ earlier ∈ front, ∀ test ∈ earlier.tests, test.IsHeld fresh) ∧ (∀ test ∈ before, test.IsHeld fresh) ∧
    test.ending fresh = .escaped payload ∧
    worlds = (front.flatMap fun earlier => earlier.tests.map fun test => test.left fresh) ++
      (before ++ [test]).map fun test => test.left fresh

section Accounts

variable {fresh : ω} {registry : Registry ω}

theorem isAccount_of_held (held : registry.IsHeld fresh) :
    IsAccount fresh registry (.ofEndings (registry.suites.flatMap (Suite.endings fresh)))
      (registry.suites.flatMap fun suite => suite.tests.map fun test => test.left fresh) := by
  have heldEach : ∀ entry ∈ registry.suites.flatMap (Suite.endings fresh), entry.2.IsHeld := by
    simp only [Suite.endings, List.forall_mem_flatMap, List.forall_mem_map]
    exact held
  refine ⟨rfl, ?_, ?_, ?_, ?_, ?_⟩
  · simp only [Report.ofEndings, List.filter_flatMap, List.map_flatMap, Suite.endings, List.filter_map, List.map_map]
    rfl
  · simp only [Report.ofEndings, List.filterMap_flatMap, Suite.endings, List.filterMap_map]
    rfl
  · rw [Report.names_failed _ heldEach]
    simp only [List.filter_flatMap, List.map_flatMap, Suite.endings, List.filter_map, List.map_map]
    rfl
  · have names : (registry.suites.flatMap (Suite.endings fresh)).map Prod.fst =
        registry.suites.flatMap fun suite => suite.tests.map fun test => suite.name ++ "." ++ test.name := by
      simp only [List.map_flatMap, Suite.endings, List.map_map]
      rfl
    rw [← names]
    exact Report.passed_append_failed_perm _ heldEach
  · rw [Report.isSuccess_ofEndings _ heldEach]
    simp only [Suite.endings, List.forall_mem_flatMap, List.forall_mem_map]

theorem isIsolated_of_held (held : registry.IsHeld fresh) :
    IsIsolated fresh registry (.ofEndings (registry.suites.flatMap (Suite.endings fresh))) := by
  have heldOther {other : Registry ω} (fewer : other.placed ⊆ registry.placed) : other.IsHeld fresh :=
    Registry.isHeld_iff_placed.2 fun place member => Registry.isHeld_iff_placed.1 held place (fewer member)
  refine ⟨?_, fun other fewer => ?_, fun other same => ?_, Registry.run_discarding_of_held held⟩
  · have single (suite : Suite ω) : suite.endings fresh = suite.tests.flatMap fun test =>
        [(suite.name ++ "." ++ test.name, test.ending fresh)] := List.map_eq_flatMap
    refine ⟨fun suite test => .ofEndings [(suite.name ++ "." ++ test.name, test.ending fresh)], ?_, ?_, ?_⟩
    · intro suite test inRegistry inSuite
      have heldOnly : (Registry.only suite.name test).IsHeld fresh := by
        simpa [Registry.IsHeld, Registry.only] using held suite inRegistry test inSuite
      exact ⟨_, Registry.runApart_of_held heldOnly⟩
    · simp only [Report.ofEndings, single, List.filter_flatMap, List.map_flatMap]
    · simp only [Report.ofEndings, single, List.filterMap_flatMap]
  · refine ⟨_, _, Registry.runApart_of_held (heldOther fewer.subset), ?_⟩
    rw [Registry.endings_eq_placed, Registry.endings_eq_placed]
    exact Report.sublist_ofEndings (fewer.map _)
  · refine ⟨_, _, Registry.runApart_of_held (heldOther same.subset), ?_⟩
    rw [Registry.endings_eq_placed, Registry.endings_eq_placed]
    exact Report.perm_ofEndings (same.map _)

theorem runApart_of_cutShort {payload : Payload} {worlds : List ω} (cut : IsCutShort fresh registry payload worlds) :
    registry.runApart fresh = .error payload worlds.reverse := by
  obtain ⟨front, suite, behind, before, test, after, suites, tests, heldFront, heldBefore, escaped, rfl⟩ := cut
  rw [Registry.runApart, (isolates_onLatest fresh).run_of_escaped suites tests heldFront heldBefore escaped,
    last_onLatest, List.map_append, List.map_flatMap, List.append_nil]

theorem forall_or_first {α : Type} (holds : α → Prop) (all : List α) : (∀ entry ∈ all, holds entry) ∨
    ∃ before first after, all = before ++ first :: after ∧ (∀ entry ∈ before, holds entry) ∧ ¬holds first := by
  induction all with
  | nil => exact Or.inl nofun
  | cons entry rest ih =>
      by_cases isFirst : holds entry
      · rcases ih with all | ⟨before, first, after, rfl, held, fails⟩
        · exact Or.inl (List.forall_mem_cons.2 ⟨isFirst, all⟩)
        · exact Or.inr ⟨entry :: before, first, after, rfl, List.forall_mem_cons.2 ⟨isFirst, held⟩, fails⟩
      · exact Or.inr ⟨[], entry, rest, rfl, nofun, isFirst⟩

theorem isHeld_or_cutShort (fresh : ω) (registry : Registry ω) :
    registry.IsHeld fresh ∨ ∃ payload worlds, IsCutShort fresh registry payload worlds := by
  rcases forall_or_first (fun suite => ∀ test ∈ suite.tests, test.IsHeld fresh) registry.suites with
    held | ⟨front, suite, behind, suites, heldFront, fails⟩
  · exact Or.inl held
  · rcases forall_or_first (Test.IsHeld fresh) suite.tests with held | ⟨before, test, after, tests, heldBefore, escapes⟩
    · exact absurd held fails
    · obtain ⟨payload, escaped⟩ := Classical.not_forall_not.1 escapes
      exact Or.inr ⟨payload, _, front, suite, behind, before, test, after, suites, tests, heldFront, heldBefore,
        escaped, rfl⟩

end Accounts

/-- A run accounts for each of its tests alone exactly if none of them breaks off outside of its task, and what a test
leaves on its service, be it objects, open uploads or a clock that has broken off, is not there for another test to
find. A run that is cut short reports nothing. -/
theorem each_test_is_accounted_for_iff_held (time : Timestamp) (registry : Registry SharedSimulation) :
    let fresh := SharedSimulation.start time
    ((∃ report worlds, registry.runApart fresh = .ok report worlds ∧ IsAccount fresh registry report worlds.reverse ∧
        IsIsolated fresh registry report) ↔
      ∀ suite ∈ registry.suites, ∀ test ∈ suite.tests, test.IsHeld fresh) ∧
    ∀ payload worlds, registry.runApart fresh = .error payload worlds ↔
      IsCutShort fresh registry payload worlds.reverse := by
  intro fresh
  rcases isHeld_or_cutShort fresh registry with held | ⟨first, made, cut⟩
  · have ran := Registry.runApart_of_held held
    refine ⟨iff_of_true ⟨_, _, ran, ?_, isIsolated_of_held held⟩ held, fun payload worlds => ⟨?_, fun cut => ?_⟩⟩
    · rw [List.reverse_reverse]
      exact isAccount_of_held held
    · rw [ran]
      exact nofun
    · rw [runApart_of_cutShort cut] at ran
      cases ran
  · have ran := runApart_of_cutShort cut
    refine ⟨⟨?_, fun held => ?_⟩, fun payload worlds => ⟨?_, fun other => ?_⟩⟩
    · rintro ⟨report, worlds, ended, _⟩
      rw [ran] at ended
      cases ended
    · rw [Registry.runApart_of_held held] at ran
      cases ran
    · intro ended
      rw [ran] at ended
      cases ended
      rwa [List.reverse_reverse]
    · rw [runApart_of_cutShort other, List.reverse_reverse]

example :
    let breaks : Test Nat := ⟨"Breaks", pure do set 1; throw (.text "boom")⟩
    let looks : Test Nat := ⟨"Looks", pure do if (← get) ≠ 0 then throw .unreadable⟩
    let never : Test Nat := ⟨"Never", throw (.text "boom")⟩
    Registry.runApart 0 ⟨[⟨"SampleTest", [breaks, looks]⟩]⟩ =
        .ok ⟨["SampleTest.Looks"], [("SampleTest.Breaks", "boom")]⟩ [0, 1] ∧
      Registry.runApart 0 ⟨[⟨"SampleTest", [breaks, never, looks]⟩]⟩ = .error (.text "boom") [0, 1] :=
  ⟨rfl, rfl⟩

/-! ### The tests of the catalogue -/

theorem Check.task_eq (transport : Transport ω) (subject : ω → Subject) (check : Check) (world : ω) :
    check.task transport subject world =
      let (ended, after) := (check.trial (subject world)).run.run transport world
      match verdictOf ended with
      | .ok _ => .ok () after
      | .error payload => .error payload after := by
  rcases ran : (check.trial (subject world)).run.run transport world with ⟨ended, after⟩
  change (match (check.trial (subject world)).run.run transport world with
    | (ended, after) => (do set after; MonadExcept.ofExcept (verdictOf ended) : Work ω Unit)) world = _
  rw [ran]
  dsimp only
  cases verdictOf ended <;> rfl

theorem Check.isHeld_toTest (transport : Transport ω) (subject : ω → Subject) (check : Check) (world : ω) :
    (check.toTest transport subject).IsHeld world := by
  intro payload escaped
  have called : (check.toTest transport subject).call world = .ok (check.task transport subject) world := rfl
  rw [Test.ending, Test.alone, called] at escaped
  dsimp only at escaped
  rw [Check.task_eq] at escaped
  rcases ran : (check.trial (subject world)).run.run transport world with ⟨(_ | _) | _ | _, after⟩
  all_goals
    rw [ran] at escaped
    cases escaped

/-- The suites of the catalogue come to a report, whatever the service does. -/
theorem runSimulated_accounts (start : Timestamp) (suiteNames : List String) (rules : List FaultRule) :
    let fresh := Faulty.start rules (Simulation.start start)
    let registry := faultyRegistry.restrict suiteNames
    ∃ report left worlds, runSimulated start suiteNames rules = .ok report left ∧
      IsAccount fresh registry report worlds ∧ IsIsolated fresh registry report := by
  intro fresh registry
  have chosen : ∀ suite ∈ registry.suites, suite ∈ faultyRegistry.suites := by
    intro suite member
    simp only [registry, Registry.restrict] at member
    split at member
    · exact member
    · exact (List.mem_filter.1 member).1
  have held : registry.IsHeld fresh := by
    intro suite member test inSuite
    obtain ⟨checks, _, rfl⟩ := List.mem_map.1 (chosen suite member)
    obtain ⟨check, _, rfl⟩ := List.mem_map.1 inSuite
    exact check.isHeld_toTest _ _ fresh
  obtain ⟨left, ran⟩ := Registry.run_discarding_of_held held fresh
  exact ⟨_, left, _, ran, isAccount_of_held held, isIsolated_of_held held⟩

end ObjectStore.Conformance
