import Mathlib.Data.List.Induction
import HostInfo.Proofs.Except
import HostInfo.Proofs.Os.Rename
import HostInfo.Title

/-!
# Titles over a whole run

One store, a simulated system and the running system; titles are set through either of them, the
simulated one is reconfigured in between, and the title is read. What was accepted decides
everything: the stored title is the last title accepted, and each system was given exactly the
titles it accepted, in their order.
-/

namespace HostInfo

/-! ## One change -/

namespace TitleStore

theorem set_eq_map {σ : Type} (rename : String → σ → Except Failure σ) (title : String)
    (store : TitleStore) (os : σ) :
    store.set rename title os = (rename title os).map fun os => (⟨title⟩, os) := by
  unfold set
  cases rename title os <;> rfl

end TitleStore

namespace Titles

/-! ## Runs -/

/-- The systems through which a title can be set. -/
inductive System where
  | simulated
  | kernel
deriving DecidableEq

structure State where
  store : TitleStore
  simulated : Simulated
  kernel : Kernel

inductive Action where
  | set (system : System) (title : String)
  /-- Changes all settings of the simulated system; the names it was given stay. -/
  | configure (settings : Simulated)
  | get

inductive Outcome where
  | accepted
  | refused (e : Failure)
  | configured
  | title (title : String)

def State.set (s : State) (title : String) : System → Except Failure State
  | .simulated =>
    (s.store.set Simulated.rename title s.simulated).map fun (store, simulated) =>
      { s with store, simulated }
  | .kernel =>
    (s.store.set Kernel.rename title s.kernel).map fun (store, kernel) => { s with store, kernel }

/-- The next state, and what the action answers. -/
def step (s : State) : Action → State × Outcome
  | .set system title =>
    match s.set title system with
    | .ok next => (next, .accepted)
    | .error e => (s, .refused e)
  | .configure settings =>
    ({ s with simulated := { settings with applied := s.simulated.applied } }, .configured)
  | .get => (s, .title s.store.title)

/-- The state after all actions. -/
def run (s : State) (actions : List Action) : State :=
  actions.foldl (fun s action => (step s action).1) s

/-- Each action with its answer. -/
def history (s : State) : List Action → List (Action × Outcome)
  | [] => []
  | action :: actions =>
    (action, (step s action).2) :: history (step s action).1 actions

/-- The system and the title of an accepted change. -/
def accepted? : Action × Outcome → Option (System × String)
  | (.set system title, .accepted) => some (system, title)
  | _ => none

/-- The titles that were accepted, oldest first. -/
def acceptedTitles (h : List (Action × Outcome)) : List String :=
  (h.filterMap accepted?).map Prod.snd

/-- The titles that one system accepted, oldest first. -/
def acceptedBy (system : System) (h : List (Action × Outcome)) : List String :=
  ((h.filterMap accepted?).filter (·.1 = system)).map Prod.snd

/-! ## One step -/

theorem set_simulated_eq_ok_iff {s next : State} {title : String} :
    s.set title .simulated = .ok next ↔
      s.simulated.TakesNames ∧
      next = { s with
        store := ⟨title⟩
        simulated := { s.simulated with applied := s.simulated.applied ++ [title] } } := by
  simp only [State.set, TitleStore.set_eq_map, Except.map_eq_ok_iff, Simulated.rename_eq_ok_iff]
  constructor
  · rintro ⟨_, ⟨_, ⟨htakes, rfl⟩, rfl⟩, rfl⟩
    exact ⟨htakes, rfl⟩
  · rintro ⟨htakes, rfl⟩
    exact ⟨_, ⟨_, ⟨htakes, rfl⟩, rfl⟩, rfl⟩

theorem set_kernel_eq_ok_iff {s next : State} {title : String} :
    s.set title .kernel = .ok next ↔
      '\x00' ∉ title.toList ∧
      next = { s with store := ⟨title⟩, kernel := { s.kernel with name := some title } } := by
  simp only [State.set, TitleStore.set_eq_map, Except.map_eq_ok_iff, Kernel.rename_eq_ok_iff]
  constructor
  · rintro ⟨_, ⟨_, ⟨hnul, rfl⟩, rfl⟩, rfl⟩
    exact ⟨hnul, rfl⟩
  · rintro ⟨hnul, rfl⟩
    exact ⟨_, ⟨_, ⟨hnul, rfl⟩, rfl⟩, rfl⟩

theorem kind_of_set_kernel_eq_error {s : State} {title : String} {e : Failure}
    (h : s.set title .kernel = .error e) : e.kind = .format := by
  rw [State.set, TitleStore.set_eq_map, Except.map_eq_error_iff, Except.map_eq_error_iff] at h
  exact Kernel.kind_of_rename_eq_error h

theorem step_set_of_ok {s next : State} {system : System} {title : String}
    (h : s.set title system = .ok next) : step s (.set system title) = (next, .accepted) := by
  rw [step, h]

theorem step_set_of_error {s : State} {system : System} {title : String} {e : Failure}
    (h : s.set title system = .error e) : step s (.set system title) = (s, .refused e) := by
  rw [step, h]

theorem step_set_eq_accepted_iff {s : State} {system : System} {title : String} :
    (step s (.set system title)).2 = .accepted ↔ ∃ next, s.set title system = .ok next := by
  cases h : s.set title system with
  | error e => simp [step_set_of_error h]
  | ok next => simp [step_set_of_ok h]

/-! ## The invariant -/

/-- What a state owes to what was accepted since `start`. -/
structure InStep (start : State) (past : List (Action × Outcome)) (now : State) : Prop where
  title : now.store.title = (acceptedTitles past).getLastD start.store.title
  applied : now.simulated.applied = start.simulated.applied ++ acceptedBy .simulated past
  name : now.kernel.name = (acceptedBy .kernel past).getLast?.or start.kernel.name

theorem acceptedTitles_append (g h : List (Action × Outcome)) :
    acceptedTitles (g ++ h) = acceptedTitles g ++ acceptedTitles h := by
  rw [acceptedTitles, List.filterMap_append, List.map_append]
  rfl

theorem acceptedBy_append (system : System) (g h : List (Action × Outcome)) :
    acceptedBy system (g ++ h) = acceptedBy system g ++ acceptedBy system h := by
  rw [acceptedBy, List.filterMap_append, List.filter_append, List.map_append]
  rfl

/-- Nothing that was not accepted leaves a trace. -/
theorem InStep.unaccepted {start now next : State} {past : List (Action × Outcome)}
    {entry : Action × Outcome} (h : InStep start past now) (hentry : accepted? entry = none)
    (hstore : next.store = now.store) (happlied : next.simulated.applied = now.simulated.applied)
    (hkernel : next.kernel = now.kernel) : InStep start (past ++ [entry]) next := by
  have htitles : acceptedTitles [entry] = [] := by simp [acceptedTitles, hentry]
  have hby : ∀ system, acceptedBy system [entry] = [] := by simp [acceptedBy, hentry]
  constructor
  · rw [acceptedTitles_append, htitles, List.append_nil, hstore, h.title]
  · rw [acceptedBy_append, hby, List.append_nil, happlied, h.applied]
  · rw [acceptedBy_append, hby, List.append_nil, hkernel, h.name]

theorem InStep.step {start now : State} {past : List (Action × Outcome)}
    (h : InStep start past now) (action : Action) :
    InStep start (past ++ [(action, (step now action).2)]) (step now action).1 := by
  cases action with
  | configure settings => exact h.unaccepted rfl rfl rfl rfl
  | get => exact h.unaccepted rfl rfl rfl rfl
  | set system title =>
      cases hset : now.set title system with
      | error e =>
          rw [step_set_of_error hset]
          exact h.unaccepted rfl rfl rfl rfl
      | ok next =>
          -- the title is appended to what its own system accepted, and to nothing else
          rw [step_set_of_ok hset]
          cases system with
          | simulated =>
              obtain ⟨-, rfl⟩ := set_simulated_eq_ok_iff.mp hset
              have hown : acceptedBy .simulated [(.set .simulated title, .accepted)] = [title] :=
                rfl
              have hother : acceptedBy .kernel [(.set .simulated title, .accepted)] = [] := rfl
              constructor
              · rw [acceptedTitles_append]
                exact List.getLastD_concat.symm
              · rw [acceptedBy_append, hown, ← List.append_assoc, ← h.applied]
              · rw [acceptedBy_append, hother, List.append_nil]
                exact h.name
          | kernel =>
              obtain ⟨-, rfl⟩ := set_kernel_eq_ok_iff.mp hset
              have hown : acceptedBy .kernel [(.set .kernel title, .accepted)] = [title] := rfl
              have hother : acceptedBy .simulated [(.set .kernel title, .accepted)] = [] := rfl
              constructor
              · rw [acceptedTitles_append]
                exact List.getLastD_concat.symm
              · rw [acceptedBy_append, hother, List.append_nil]
                exact h.applied
              · rw [acceptedBy_append, hown, List.getLast?_concat]
                rfl

/-! ## Whole runs -/

theorem run_concat (s : State) (actions : List Action) (action : Action) :
    run s (actions ++ [action]) = (step (run s actions) action).1 := by
  rw [run, List.foldl_append]
  rfl

theorem history_concat (s : State) (actions : List Action) (action : Action) :
    history s (actions ++ [action]) =
      history s actions ++ [(action, (step (run s actions) action).2)] := by
  induction actions generalizing s with
  | nil => rfl
  | cons first actions ih =>
      rw [List.cons_append, history, ih]
      rfl

theorem history_take (s : State) (actions : List Action) (k : Nat) :
    history s (actions.take k) = (history s actions).take k := by
  induction actions generalizing s k with
  | nil => simp [history]
  | cons first actions ih =>
      cases k with
      | zero => rfl
      | succ k =>
          rw [List.take_succ_cons, history, history, List.take_succ_cons, ih]

/-- The answer of an action is given in the state that the actions before it led to. -/
theorem getElem?_history (s : State) (actions : List Action) (k : Nat) :
    (history s actions)[k]? =
      actions[k]?.map fun action => (action, (step (run s (actions.take k)) action).2) := by
  induction actions generalizing s k with
  | nil => rfl
  | cons first actions ih =>
      cases k with
      | zero => rfl
      | succ k =>
          rw [history, List.getElem?_cons_succ, List.getElem?_cons_succ, ih]
          rfl

theorem run_take_succ {s : State} {actions : List Action} {k : Nat} {action : Action}
    (h : actions[k]? = some action) :
    run s (actions.take (k + 1)) = (step (run s (actions.take k)) action).1 := by
  rw [List.take_add_one, h]
  exact run_concat s _ action

theorem inStep_run (start : State) (actions : List Action) :
    InStep start (history start actions) (run start actions) := by
  induction actions using List.reverseRecOn with
  | nil => exact ⟨rfl, (List.append_nil _).symm, rfl⟩
  | append_singleton actions action ih =>
      rw [history_concat, run_concat]
      exact ih.step action

/-- An entry of the history and the step that made it. -/
theorem step_of_history {s : State} {actions : List Action} {k : Nat} {action : Action}
    {outcome : Outcome} (h : (history s actions)[k]? = some (action, outcome)) :
    step (run s (actions.take k)) action = (run s (actions.take (k + 1)), outcome) := by
  rw [getElem?_history, Option.map_eq_some_iff] at h
  obtain ⟨_, haction, hentry⟩ := h
  cases hentry
  rw [run_take_succ haction]

/-- **Title and names stay in step over every run.** After any number of actions the title is the
last one accepted, in full, and the names of the simulated system are the titles it accepted, in
order. Reading gives that title; a refused change leaves everything as it was. The running system
accepts a title exactly if there is no NUL in it, and refuses any other for its format; the
simulated one accepts a title exactly if it can rename the process and is not made to fail. -/
theorem titles_in_step (start : State) (actions : List Action) (k : Nat) :
    InStep start ((history start actions).take k) (run start (actions.take k)) ∧
    (∀ outcome, (history start actions)[k]? = some (.get, outcome) →
      outcome = .title ((acceptedTitles ((history start actions).take k)).getLastD
        start.store.title)) ∧
    (∀ system title e, (history start actions)[k]? = some (.set system title, .refused e) →
      run start (actions.take (k + 1)) = run start (actions.take k)) ∧
    (∀ title outcome, (history start actions)[k]? = some (.set .kernel title, outcome) →
      ('\x00' ∉ title.toList ∧ outcome = .accepted) ∨
      ('\x00' ∈ title.toList ∧ ∃ e, outcome = .refused e ∧ e.kind = .format)) ∧
    (∀ title outcome, (history start actions)[k]? = some (.set .simulated title, outcome) →
      (outcome = .accepted ↔ (run start (actions.take k)).simulated.TakesNames)) := by
  have hnow : InStep start ((history start actions).take k) (run start (actions.take k)) := by
    rw [← history_take]
    exact inStep_run start (actions.take k)
  refine ⟨hnow, ?_, ?_, ?_, ?_⟩
  · intro outcome h
    rw [← hnow.title]
    exact (congrArg Prod.snd (step_of_history h)).symm
  · intro system title e h
    have hstep := step_of_history h
    cases hset : (run start (actions.take k)).set title system with
    | error e' =>
        rw [step_set_of_error hset] at hstep
        exact (congrArg Prod.fst hstep).symm
    | ok next =>
        rw [step_set_of_ok hset] at hstep
        cases congrArg Prod.snd hstep
  · intro title outcome h
    have hstep : (step (run start (actions.take k)) (.set .kernel title)).2 = outcome :=
      congrArg Prod.snd (step_of_history h)
    cases hset : (run start (actions.take k)).set title .kernel with
    | error e =>
        rw [step_set_of_error hset] at hstep
        refine Or.inr ⟨?_, e, hstep.symm, kind_of_set_kernel_eq_error hset⟩
        by_contra hnul
        rw [set_kernel_eq_ok_iff.mpr ⟨hnul, rfl⟩] at hset
        cases hset
    | ok next =>
        rw [step_set_of_ok hset] at hstep
        exact Or.inl ⟨(set_kernel_eq_ok_iff.mp hset).1, hstep.symm⟩
  · intro title outcome h
    have hstep : (step (run start (actions.take k)) (.set .simulated title)).2 = outcome :=
      congrArg Prod.snd (step_of_history h)
    rw [← hstep, step_set_eq_accepted_iff]
    constructor
    · rintro ⟨next, hset⟩
      exact (set_simulated_eq_ok_iff.mp hset).1
    · intro htakes
      exact ⟨_, set_simulated_eq_ok_iff.mpr ⟨htakes, rfl⟩⟩

/-- A run in which a title is refused by either system. -/
def refusals : List Action :=
  [.set .simulated "alpha", .configure { Simulated.standard with renames := false },
    .set .simulated "beta", .set .kernel "gam\x00ma", .set .kernel "delta", .get]

def init : State :=
  ⟨⟨"init"⟩, .standard, ⟨Simulated.standard.answers, none⟩⟩

theorem titles_in_step_refusals :
    (run init refusals).store.title = "delta" ∧ (run init refusals).simulated.applied = ["alpha"] ∧
    run init (refusals.take 4) = run init (refusals.take 3) := by
  obtain ⟨h, -, -, -, -⟩ := titles_in_step init refusals 6
  obtain ⟨-, -, hrefused, -, -⟩ := titles_in_step init refusals 3
  have htitle : acceptedTitles (history init refusals) = ["alpha", "delta"] := by rfl
  have hsimulated : acceptedBy .simulated (history init refusals) = ["alpha"] := by rfl
  refine ⟨?_, ?_, ?_⟩
  · exact h.title.trans (congrArg (List.getLastD · "init") htitle)
  · exact h.applied.trans hsimulated
  · exact hrefused _ _ _ rfl

end Titles

end HostInfo
