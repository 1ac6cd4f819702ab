import LogSieve.Search

/-!
# How often a search fetches

A store can be made to count how often it is asked (`Store.counting`), in whatever monad it works.
A search for a filter that does not compile never asks it, and any other search asks it once
(`run_counting`).
-/

namespace LogSieve

variable {m : Type → Type} [Monad m] {R : Type}

/-- The store that counts how often it is asked. -/
def Store.counting (store : Store m R) : Store (StateT Nat m) R where
  fetchAll := do
    modify (· + 1)
    store.fetchAll

namespace Search

variable [HasFields R]

/-- What a search must answer, with the number of fetches, if `count` fetches went before: a filter
that does not compile is answered with its fault, and the store is not asked. Otherwise it is asked
once, and the answer is its own fault or the matching ones of its records. -/
def answer (store : Store m R) (schema : Schema) (compiled : Except FilterFault Condition)
    (count : Nat) : m (Except SearchFault (List R) × Nat) :=
  match compiled with
  | .error fault => pure (.error (.badRequest fault), count)
  | .ok condition => do
    match ← store.fetchAll with
    | .error fault => pure (.error (.storage fault), count + 1)
    | .ok records => pure (.ok (execute schema condition records), count + 1)

/-- **A search fetches at most once**, and only for a filter that compiles. -/
theorem run_counting [LawfulMonad m] (store : Store m R) (schema : Schema)
    (compiled : Except FilterFault Condition) (count : Nat) :
    (run store.counting schema compiled).run count = answer store schema compiled count := by
  cases compiled with
  | error fault => rfl
  | ok condition =>
    simp only [run, answer, Store.counting, StateT.run_bind, StateT.run_modify,
      StateT.run_monadLift, monadLift_self, bind_pure_comp, bind_map_left, pure_bind]
    refine bind_congr fun fetched => ?_
    cases fetched <;> rfl

end Search

end LogSieve
