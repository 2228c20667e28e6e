import HostInfo.Os.Simulated
import HostInfo.Session

/-!
# Refused changes of the process's title

What a refused change leaves behind. It seeds a title that was never set up with an empty one, as
every change does, and does nothing else. So it can be told from no change at all only where it
comes first and the title is then set up with a text: that text is not taken any more.
-/

namespace HostInfo.ProcessTitle

/-! ## Calls -/

/-- The process and the state of all systems around it. -/
structure State (σ : Type) where
  session : Session
  os : σ

/-- Calls on the title. Each change goes through a system of its own; what the systems share may
also change between two calls. -/
inductive Call (σ : Type) where
  | setUp (title : String)
  | set (system : OperatingSystem σ) (title : String)
  | title
  | change (os : σ)

inductive Answer where
  | title (title : String)
  | accepted
  | refused (e : Failure)
  | changed
deriving DecidableEq

variable {σ : Type}

/-- The next state, and what the call answers. -/
def step (s : State σ) : Call σ → State σ × Answer
  | .setUp title =>
    let session := s.session.setUpTitle title
    ({ s with session }, .title session.title)
  | .set system title =>
    letI := system
    match s.session.setTitle title s.os with
    | (.ok (), session, os) => (⟨session, os⟩, .accepted)
    | (.error e, session, os) => (⟨session, os⟩, .refused e)
  | .title => (s, .title s.session.title)
  | .change os => ({ s with os }, .changed)

/-- The answers to a sequence of calls. -/
def answers (s : State σ) : List (Call σ) → List Answer
  | [] => []
  | call :: calls => (step s call).2 :: answers (step s call).1 calls

/-- The state after `setUp ""`. -/
def State.seeded (s : State σ) : State σ := { s with session := s.session.setUpTitle "" }

/-- The first call that makes a store if there is none sets it up with a text. -/
def SetsUpText : List (Call σ) → Prop
  | [] => False
  | .setUp title :: _ => title ≠ ""
  | .set _ _ :: _ => False
  | .title :: calls => SetsUpText calls
  | .change _ :: calls => SetsUpText calls

/-! ## The empty seed -/

theorem setUpTitle_of_store {s : Session} {store : TitleStore} (h : s.store = some store)
    (title : String) : s.setUpTitle title = s := by
  rw [Session.setUpTitle, h]

theorem setUpTitle_of_none {s : Session} (h : s.store = none) (title : String) :
    s.setUpTitle title = { s with store := some ⟨title⟩ } := by
  rw [Session.setUpTitle, h]

/-- Setting up does something only where there is no store. -/
theorem setUpTitle_eq_self_iff {s : Session} {title : String} :
    s.setUpTitle title = s ↔ s.store ≠ none := by
  cases h : s.store with
  | none =>
      rw [setUpTitle_of_none h]
      constructor
      · intro heq
        have hstore := congrArg Session.store heq
        rw [h] at hstore
        cases hstore
      · exact fun hne => absurd rfl hne
  | some store => exact ⟨fun _ => nofun, fun _ => setUpTitle_of_store h title⟩

theorem title_setUpTitle_empty (s : Session) : (s.setUpTitle "").title = s.title := by
  cases h : s.store with
  | none => rw [setUpTitle_of_none h, Session.title, Session.title, h]
  | some store => rw [setUpTitle_of_store h]

theorem start_setUpTitle (s : Session) (title : String) : (s.setUpTitle title).start = s.start := by
  unfold Session.setUpTitle
  cases s.store <;> rfl

theorem setUpTitle_idem (s : Session) (first second : String) :
    (s.setUpTitle first).setUpTitle second = s.setUpTitle first := by
  cases h : s.store with
  | none => exact setUpTitle_of_store (by rw [setUpTitle_of_none h]) second
  | some store => rw [setUpTitle_of_store h, setUpTitle_of_store h]

theorem State.seeded_of_store {s : State σ} {store : TitleStore}
    (h : s.session.store = some store) : s.seeded = s := by
  rw [State.seeded, setUpTitle_of_store h]

/-! ## One change -/

theorem setTitle_eq [OperatingSystem σ] (s : Session) (title : String) (os : σ) :
    s.setTitle title os =
      match OperatingSystem.rename title os with
      | .ok os' => (.ok (), { s with store := some ⟨title⟩ }, os')
      | .error e => (.error e, s.setUpTitle "", os) := by
  unfold Session.setTitle TitleStore.set
  dsimp only
  cases OperatingSystem.rename title os with
  | ok os' => rfl
  | error e =>
      cases hstore : s.store with
      | none =>
          rw [setUpTitle_of_none hstore]
          rfl
      | some store =>
          rw [setUpTitle_of_store hstore]
          dsimp only [Option.getD_some]
          rw [← hstore]

theorem start_setTitle [OperatingSystem σ] (s : Session) (title : String) (os : σ) :
    (s.setTitle title os).2.1.start = s.start := by
  rw [setTitle_eq]
  cases OperatingSystem.rename title os with
  | ok os' => rfl
  | error e => exact start_setUpTitle s ""

/-- An accepted change decides about the store, whether there was one or not; a refused one
leaves the empty seed. -/
theorem step_set (s : State σ) (system : OperatingSystem σ) (title : String) :
    step s (.set system title) =
      match system.rename title s.os with
      | .ok os => (⟨{ s.session with store := some ⟨title⟩ }, os⟩, .accepted)
      | .error e => (s.seeded, .refused e) := by
  have hset := @setTitle_eq σ system s.session title s.os
  unfold step
  dsimp only
  rw [hset]
  cases system.rename title s.os with
  | ok os => rfl
  | error e => rfl

theorem step_set_of_refused {s : State σ} {system : OperatingSystem σ} {title : String}
    {e : Failure} (h : (step s (.set system title)).2 = .refused e) :
    (step s (.set system title)).1 = s.seeded := by
  rw [step_set] at h ⊢
  cases hrename : system.rename title s.os with
  | ok os =>
      rw [hrename] at h
      cases h
  | error e' => rfl

/-! ## Two runs -/

/-- A change does the same with the empty seed and without it. -/
theorem step_seeded_set (s : State σ) (system : OperatingSystem σ) (title : String) :
    step s.seeded (.set system title) = step s (.set system title) := by
  rw [step_set, step_set]
  change (match system.rename title s.os with | .ok os => _ | .error e => _) = _
  cases system.rename title s.os with
  | ok os =>
      dsimp only [State.seeded]
      rw [start_setUpTitle]
  | error e =>
      dsimp only [State.seeded]
      rw [setUpTitle_idem]

theorem answers_seeded_iff {s : State σ} (h : s.session.store = none) (calls : List (Call σ)) :
    answers s.seeded calls = answers s calls ↔ ¬ SetsUpText calls := by
  induction calls generalizing s with
  | nil => exact ⟨fun _ => id, fun _ => rfl⟩
  | cons call calls ih =>
      cases call with
      | setUp title =>
          -- both runs have a store from here on, the one with the title `""`
          have hseeded : step s.seeded (.setUp title) = (s.seeded, .title "") := by
            have htitle : s.seeded.session.title = "" := by
              rw [State.seeded, title_setUpTitle_empty, Session.title, h]
            rw [step, State.seeded, setUpTitle_idem]
            exact congrArg (fun t => (s.seeded, Answer.title t)) htitle
          have hplain : (step s (.setUp title)).2 = .title title := by
            rw [step, setUpTitle_of_none h]
            rfl
          rw [answers, answers, hseeded, hplain, SetsUpText, Decidable.not_not]
          constructor
          · intro heq
            cases (List.cons.inj heq).1
            rfl
          · rintro rfl
            rfl
      | set system title =>
          rw [answers, answers, step_seeded_set]
          exact ⟨fun _ => id, fun _ => rfl⟩
      | title =>
          have hanswer : (step s.seeded .title).2 = (step s .title).2 :=
            congrArg Answer.title (title_setUpTitle_empty s.session)
          rw [answers, answers, hanswer, List.cons_inj_right]
          exact ih h
      | change os =>
          rw [answers, answers, SetsUpText, ← ih (s := { s with os }) h]
          exact List.cons_inj_right _

/-- **A refused change is a setting up with the empty title.** Whatever is called afterwards
answers as if the title had been set up with the empty text instead. It answers as if nothing had
been called at all, except where the title was not set up before and the first later call that
makes a store sets it up with a text. -/
theorem refused_change (s : State σ) (system : OperatingSystem σ) (title : String) (e : Failure)
    (h : (step s (.set system title)).2 = .refused e) (calls : List (Call σ)) :
    answers (step s (.set system title)).1 calls = answers (step s (.setUp "")).1 calls ∧
    (answers (step s (.set system title)).1 calls = answers s calls ↔
      s.session.store ≠ none ∨ ¬ SetsUpText calls) := by
  rw [step_set_of_refused h]
  refine ⟨rfl, ?_⟩
  cases hstore : s.session.store with
  | none =>
      rw [answers_seeded_iff hstore]
      simp
  | some store =>
      rw [State.seeded_of_store hstore]
      simp

/-- A simulated system that cannot rename the process. -/
def unable : Simulated := { Simulated.standard with renames := false }

/-- After a first title, a refused change cannot be seen. -/
theorem refused_change_after_setUp :
    answers (step ⟨Session.fresh.setUpTitle "node", unable⟩ (.set inferInstance "worker")).1
        [.title, .setUp "late", .change .standard, .set inferInstance "worker", .title] =
      answers ⟨Session.fresh.setUpTitle "node", unable⟩
        [.title, .setUp "late", .change .standard, .set inferInstance "worker", .title] :=
  (refused_change ⟨Session.fresh.setUpTitle "node", unable⟩ inferInstance "worker"
    (.unsupported "setting the process title") rfl _).2.mpr (.inl (by decide))

/-- Before the title is set up, a refused change keeps the first title from being taken. -/
theorem refused_change_hinders_setUp :
    (step ⟨Session.fresh, unable⟩ (.set inferInstance "worker")).2 =
      .refused (.unsupported "setting the process title") ∧
    answers (step ⟨Session.fresh, unable⟩ (.set inferInstance "worker")).1
      [.setUp "node", .title] = [.title "", .title ""] ∧
    answers ⟨Session.fresh, unable⟩ [.setUp "node", .title] = [.title "node", .title "node"] :=
  ⟨rfl, rfl, rfl⟩

end HostInfo.ProcessTitle
