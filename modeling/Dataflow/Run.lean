/-!
# Runs

A machine answers one call at a time and moves to a new state. `answers` and `after` perform a list
of calls from a state, one after the other; what every single call keeps holds after a run
(`after_induction`), also if only the calls of the run keep it (`after_induction_mem`).
-/

namespace Dataflow.Run

variable {σ κ α : Type}

/-- The answers of a list of calls. -/
def answers (perform : σ → κ → α × σ) : σ → List κ → List α
  | _, [] => []
  | s, c :: rest => (perform s c).1 :: answers perform (perform s c).2 rest

/-- The state after a list of calls. -/
def after (perform : σ → κ → α × σ) (s : σ) (calls : List κ) : σ :=
  calls.foldl (fun s c => (perform s c).2) s

/-- The answers of a list of calls and the state after them, in one pass. -/
def both (perform : σ → κ → α × σ) : σ → List κ → List α × σ
  | s, [] => ([], s)
  | s, c :: rest =>
    let (a, s) := perform s c
    let (as, s) := both perform s rest
    (a :: as, s)

/-- Going through the calls once gives the answers and the state after them. -/
theorem both_eq (perform : σ → κ → α × σ) (s : σ) (calls : List κ) :
    both perform s calls = (answers perform s calls, after perform s calls) := by
  induction calls generalizing s with
  | nil => rfl
  | cons c rest ih => simp [both, ih, answers, after]

/-- Calls lead where the first of them lead, and from there the others. -/
theorem after_append (perform : σ → κ → α × σ) (s : σ) (xs ys : List κ) :
    after perform s (xs ++ ys) = after perform (after perform s xs) ys := by
  simp [after]

/-- The later calls are answered where the first have led. -/
theorem answers_append (perform : σ → κ → α × σ) (s : σ) (xs ys : List κ) :
    answers perform s (xs ++ ys) =
      answers perform s xs ++ answers perform (after perform s xs) ys := by
  induction xs generalizing s with
  | nil => rfl
  | cons c rest ih => simp [answers, ih, after]

/-- Every call is answered. -/
theorem length_answers (perform : σ → κ → α × σ) (s : σ) (calls : List κ) :
    (answers perform s calls).length = calls.length := by
  induction calls generalizing s with
  | nil => rfl
  | cons c rest ih => simp [answers, ih]

/-- The calls with their answers, with one more call at the end. -/
theorem zip_answers_concat (perform : σ → κ → α × σ) (s : σ) (calls : List κ) (c : κ) :
    (calls ++ [c]).zip (answers perform s (calls ++ [c])) =
      calls.zip (answers perform s calls) ++ [(c, (perform (after perform s calls) c).1)] := by
  rw [answers_append, List.zip_append (length_answers ..).symm]
  rfl

/-- What every call of a run keeps holds after the run. -/
theorem after_induction_mem {perform : σ → κ → α × σ} {P : σ → Prop} {s : σ} {calls : List κ}
    (start : P s) (keep : ∀ s, ∀ c ∈ calls, P s → P (perform s c).2) :
    P (after perform s calls) := by
  induction calls generalizing s with
  | nil => exact start
  | cons c rest ih =>
    exact ih (keep s c List.mem_cons_self start) fun s c hc => keep s c (List.mem_cons_of_mem _ hc)

/-- What holds at the start and is kept by every call holds after all calls. -/
theorem after_induction {perform : σ → κ → α × σ} {P : σ → Prop} {s : σ} (calls : List κ)
    (start : P s) (keep : ∀ s c, P s → P (perform s c).2) : P (after perform s calls) :=
  after_induction_mem start fun s c _ => keep s c

end Dataflow.Run
