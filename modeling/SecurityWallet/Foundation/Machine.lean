import Mathlib

/-!
# Runs of a machine

A machine answers one input at a time and moves its state. A run feeds it a list of inputs and
collects the answers. The rules here turn a fact about one step into one about every run: an
invariant, a relation between two machines, and the exact condition under which two machines give
the same answers. A machine that writes a log can be run together with an observer of it.
-/

namespace Foundation

/-- A machine with states `σ`, inputs `ι` and answers `ω`. -/
abbrev Machine (σ ι ω : Type) := ι → σ → ω × σ

namespace Machine

variable {σ τ ι ω : Type}

def run (machine : Machine σ ι ω) : List ι → σ → List ω × σ
  | [], state => ([], state)
  | input :: inputs, state =>
      ((machine input state).1 :: (run machine inputs (machine input state).2).1,
        (run machine inputs (machine input state).2).2)

@[simp]
theorem run_nil (machine : Machine σ ι ω) (state : σ) : run machine [] state = ([], state) := rfl

@[simp]
theorem run_cons (machine : Machine σ ι ω) (input : ι) (inputs : List ι) (state : σ) :
    run machine (input :: inputs) state =
      ((machine input state).1 :: (run machine inputs (machine input state).2).1,
        (run machine inputs (machine input state).2).2) := rfl

/-- `guard` holds of every input of the list at the state the machine takes it in. -/
def Along (machine : Machine σ ι ω) (guard : ι → σ → Prop) : List ι → σ → Prop
  | [], _ => True
  | input :: inputs, state =>
      guard input state ∧ Along machine guard inputs (machine input state).2

@[simp]
theorem along_nil (machine : Machine σ ι ω) (guard : ι → σ → Prop) (state : σ) :
    Along machine guard [] state := trivial

@[simp]
theorem along_cons (machine : Machine σ ι ω) (guard : ι → σ → Prop) (input : ι) (inputs : List ι)
    (state : σ) :
    Along machine guard (input :: inputs) state ↔
      guard input state ∧ Along machine guard inputs (machine input state).2 := Iff.rfl

/-- What every step keeps holds at the end of every run. -/
theorem run_stable {machine : Machine σ ι ω} {P : σ → Prop}
    (hstep : ∀ input state, P state → P (machine input state).2)
    (inputs : List ι) {state : σ} (hstart : P state) : P (run machine inputs state).2 := by
  induction inputs generalizing state with
  | nil => exact hstart
  | cons input inputs ih => exact ih (hstep input state hstart)

/-- A guard that follows from an invariant holds along every run. -/
theorem along_of_invariant {machine : Machine σ ι ω} {guard : ι → σ → Prop} {P : σ → Prop}
    (hstep : ∀ input state, P state → P (machine input state).2 ∧ guard input state)
    (inputs : List ι) {state : σ} (hstart : P state) : Along machine guard inputs state := by
  induction inputs generalizing state with
  | nil => trivial
  | cons input inputs ih =>
      obtain ⟨hnext, hguard⟩ := hstep input state hstart
      exact ⟨hguard, ih hnext⟩

/-- Answers that an invariant determines from the inputs. -/
theorem run_answers_eq_map {machine : Machine σ ι ω} {P : σ → Prop} {answer : ι → ω}
    (hstep : ∀ input state, P state →
      (machine input state).1 = answer input ∧ P (machine input state).2)
    (inputs : List ι) {state : σ} (hstart : P state) :
    (run machine inputs state).1 = inputs.map answer := by
  induction inputs generalizing state with
  | nil => rfl
  | cons input inputs ih =>
      obtain ⟨hanswer, hnext⟩ := hstep input state hstart
      rw [run_cons, List.map_cons, hanswer, ih hnext]

/-- The last value that an input of the list writes, or the one from before. -/
def lastWrite {α : Type} (write : ι → Option α) (inputs : List ι) (before : α) : α :=
  (inputs.filterMap write).getLast?.getD before

theorem lastWrite_cons {α : Type} (write : ι → Option α) (input : ι) (inputs : List ι)
    (before : α) :
    lastWrite write (input :: inputs) before =
      lastWrite write inputs ((write input).getD before) := by
  unfold lastWrite
  cases hwrite : write input with
  | none => rw [List.filterMap_cons_none hwrite, Option.getD_none]
  | some a =>
      rw [List.filterMap_cons_some hwrite, List.getLast?_cons, Option.getD_some, Option.getD_some]

/-- The inputs of a run with their answers. -/
def log (machine : Machine σ ι ω) (inputs : List ι) (state : σ) : List (ι × ω) :=
  inputs.zip (run machine inputs state).1

@[simp]
theorem log_nil (machine : Machine σ ι ω) (state : σ) : log machine [] state = [] := rfl

@[simp]
theorem log_cons (machine : Machine σ ι ω) (input : ι) (inputs : List ι) (state : σ) :
    log machine (input :: inputs) state =
      (input, (machine input state).1) :: log machine inputs (machine input state).2 := rfl

/-- What is observed of a state and follows the log at each step follows the log of a run. -/
theorem run_observed {machine : Machine σ ι ω} {observe : σ → τ} {replay : τ → ι × ω → τ}
    (hstep : ∀ input state, observe (machine input state).2 =
      replay (observe state) (input, (machine input state).1))
    (inputs : List ι) (state : σ) :
    observe (run machine inputs state).2 =
      (log machine inputs state).foldl replay (observe state) := by
  induction inputs generalizing state with
  | nil => rfl
  | cons input inputs ih =>
      rw [run_cons, log_cons, List.foldl_cons, ← hstep]
      exact ih (machine input state).2

/-- Inputs that leave the state can be left out of a run: the rest of the log is the same. -/
theorem run_filter {machine : Machine σ ι ω} {relevant : ι → Bool} {P : σ → Prop}
    (hstep : ∀ input state, P state → P (machine input state).2)
    (hidle : ∀ input state, P state → relevant input = false → (machine input state).2 = state)
    (inputs : List ι) {state : σ} (hstart : P state) :
    (run machine (inputs.filter relevant) state).2 = (run machine inputs state).2 ∧
      log machine (inputs.filter relevant) state =
        (log machine inputs state).filter fun entry => relevant entry.1 := by
  induction inputs generalizing state with
  | nil => exact ⟨rfl, rfl⟩
  | cons input inputs ih =>
      obtain ⟨hlast, hlog⟩ := ih (hstep input state hstart)
      rw [run_cons, log_cons, List.filter_cons, List.filter_cons]
      cases hrelevant : relevant input with
      | true =>
          rw [if_pos rfl, if_pos rfl, run_cons, log_cons, hlog]
          exact ⟨hlast, rfl⟩
      | false =>
          rw [hidle input state hstart hrelevant] at hlast hlog ⊢
          rw [if_neg (by simp), if_neg (by simp)]
          exact ⟨hlast, hlog⟩

/-- `P` holds at every state of a run: at the start and after each input. -/
def Throughout (machine : Machine σ ι ω) (P : σ → Prop) : List ι → σ → Prop
  | [], state => P state
  | input :: inputs, state => P state ∧ Throughout machine P inputs (machine input state).2

theorem throughout_iff {machine : Machine σ ι ω} {P : σ → Prop} {inputs : List ι} {state : σ} :
    Throughout machine P inputs state ↔ ∀ front, front <+: inputs → P (run machine front state).2 := by
  induction inputs generalizing state with
  | nil =>
      simp only [List.prefix_nil]
      exact ⟨fun hstart front hfront => hfront ▸ hstart, fun hall => hall [] rfl⟩
  | cons input inputs ih =>
      rw [Throughout, ih]
      constructor
      · rintro ⟨hstart, hrest⟩ front hfront
        rcases List.prefix_cons_iff.1 hfront with rfl | ⟨rest, rfl, hprefix⟩
        · exact hstart
        · exact hrest rest hprefix
      · intro hall
        exact ⟨hall [] (List.nil_prefix),
          fun front hfront => hall (input :: front) ((List.prefix_cons_inj input).2 hfront)⟩

/--
Suppose that under an invariant a step keeps `P` exactly if the guard allows it. Then `P` holds
throughout a run exactly if it does at the start and the guard holds along the run.
-/
theorem throughout_iff_along {machine : Machine σ ι ω} {I P : σ → Prop} {guard : ι → σ → Prop}
    (hinvariant : ∀ input state, I state → I (machine input state).2)
    (hstep : ∀ input state, I state → P state →
      (P (machine input state).2 ↔ guard input state))
    (inputs : List ι) {state : σ} (hstart : I state) :
    Throughout machine P inputs state ↔ P state ∧ Along machine guard inputs state := by
  induction inputs generalizing state with
  | nil => simp [Throughout]
  | cons input inputs ih =>
      rw [Throughout, along_cons, ih (hinvariant input state hstart)]
      constructor
      · rintro ⟨hstate, hnext, hrest⟩
        exact ⟨hstate, (hstep input state hstart hstate).1 hnext, hrest⟩
      · rintro ⟨hstate, hguard, hrest⟩
        exact ⟨hstate, (hstep input state hstart hstate).2 hguard, hrest⟩

section Watched

variable {ε : Type} {machine : Machine σ ι ω} {log : σ → List ε} {observe : ε → τ → τ}

/-- The machine with an observer that is handed, in order, what each step adds to a log. -/
def watched (machine : Machine σ ι ω) (log : σ → List ε) (observe : ε → τ → τ) :
    Machine (σ × τ) ι ω := fun input (state, observer) =>
  let (answer, next) := machine input state
  (answer, next, ((log next).drop (log state).length).foldl (fun observer event =>
    observe event observer) observer)

theorem watched_eq {input : ι} {state next : σ} {answer : ω} {events : List ε}
    (hmachine : machine input state = (answer, next)) (hlog : log next = log state ++ events)
    (observer : τ) :
    watched machine log observe input (state, observer) =
      (answer, next, events.foldl (fun observer event => observe event observer) observer) := by
  rw [watched]
  dsimp only
  rw [hmachine]
  dsimp only
  rw [hlog, List.drop_left]

end Watched

section Two

variable {abstract : Machine τ ι ω} {concrete : Machine σ ι ω} {R : τ → σ → Prop}
  {guard : ι → τ → Prop}

/-- A relation under which the machines answer alike, and which every step keeps, is kept by runs. -/
theorem run_refines (inputs : List ι)
    (hstep : ∀ input ∈ inputs, ∀ a c, R a c →
      (abstract input a).1 = (concrete input c).1 ∧ R (abstract input a).2 (concrete input c).2)
    {a : τ} {c : σ} (hstart : R a c) :
    (run abstract inputs a).1 = (run concrete inputs c).1 ∧
      R (run abstract inputs a).2 (run concrete inputs c).2 := by
  induction inputs generalizing a c with
  | nil => exact ⟨rfl, hstart⟩
  | cons input inputs ih =>
      obtain ⟨hanswer, hnext⟩ := hstep input List.mem_cons_self a c hstart
      obtain ⟨hanswers, hlast⟩ :=
        ih (fun other hother => hstep other (List.mem_cons_of_mem input hother)) hnext
      exact ⟨congrArg₂ List.cons hanswer hanswers, hlast⟩

/--
Suppose the machines agree on a step that the guard allows, and differ on one that it refuses. Then
they give the same answers along a run exactly if the guard holds along the run.
-/
theorem run_answers_eq_iff
    (hagree : ∀ input a c, R a c → guard input a →
      (abstract input a).1 = (concrete input c).1 ∧ R (abstract input a).2 (concrete input c).2)
    (hdiffer : ∀ input a c, R a c → ¬ guard input a →
      (abstract input a).1 ≠ (concrete input c).1)
    (inputs : List ι) {a : τ} {c : σ} (hstart : R a c) :
    (run abstract inputs a).1 = (run concrete inputs c).1 ↔ Along abstract guard inputs a := by
  induction inputs generalizing a c with
  | nil => simp
  | cons input inputs ih =>
      rw [run_cons, run_cons, along_cons, List.cons.injEq]
      by_cases hguard : guard input a
      · obtain ⟨hanswer, hnext⟩ := hagree input a c hstart hguard
        rw [ih hnext]
        simp [hanswer, hguard]
      · simp [hdiffer input a c hstart hguard, hguard]

end Two

end Machine

end Foundation
