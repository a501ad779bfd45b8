import MessageBus.Proofs.Concurrency.Move

namespace MessageBus.Concurrency

/-- How far a call has got: the stages in the order in which they come, counted from the end, and
what is left to do at the stage. -/
def Stage.rank : Stage → ℕ × ℕ
  | .idle => (0, 0)
  | .numbered _ _ => (1, 0)
  | .unlisted _ => (1, 0)
  | .delivering _ left => (2, left.length)
  | .looking _ left _ => (3, left.length)
  | .computed _ _ => (4, 0)
  | .unresolved _ => (5, 0)

/-- What every step of a thread lessens. -/
def Thread.rank (t : Thread) : ℕ ×ₗ ℕ ×ₗ ℕ := toLex (t.calls.length, toLex t.stage.rank)

variable {f : Fleet} {s : Shared} {t t' : Thread} {acts : List Action} {r : Registry} {v : Resolver}
  {i : Nat}

/-- A thread never waits for another one: while it has something to do, each of its steps brings it
on. -/
theorem Move.rank_lt (move : Move s t acts t' r v) (busy : t.isDone = false) :
    t'.rank < t.rank := by
  cases move with
  | rest => simp [Thread.isDone] at busy
  | _ => simp [Thread.rank, Stage.rank, Prod.Lex.toLex_lt_toLex]

theorem Fleet.step_of_ne (f : Fleet) {i j : Nat} (h : j ≠ i) :
    (f.step i).threads[j]? = f.threads[j]? := by
  rw [Fleet.step]
  cases f.threads[i]? with
  | none => rfl
  | some t => exact List.getElem?_set_ne (Ne.symm h)

theorem Fleet.run_replicate_of_ne (f : Fleet) {i j : Nat} (h : j ≠ i) (n : Nat) :
    (f.run (List.replicate n i)).threads[j]? = f.threads[j]? := by
  induction n generalizing f with
  | zero => rfl
  | succ n ih => exact (ih (f.step i)).trans (f.step_of_ne h)

/-- A thread that runs alone is done after some steps. -/
theorem Fleet.exists_done (f : Fleet) (i : Nat) : ∃ n, ∀ u,
    (f.run (List.replicate n i)).threads[i]? = some u → u.isDone = true := by
  cases there : f.threads[i]? with
  | none => exact ⟨0, fun u hu => by simp [Fleet.run, there] at hu⟩
  | some t =>
    -- The steps lessen the rank of the thread.
    generalize h : t.rank = rank
    induction rank using WellFoundedLT.induction generalizing f t with
    | ind rank ih =>
      cases busy : t.isDone with
      | true => exact ⟨0, fun u hu => by rwa [← Option.some.inj (there.symm.trans hu)]⟩
      | false =>
        obtain ⟨acts, t', r, v, move, stepped⟩ := t.step_move i f.shared
        have next : (f.step i).threads[i]? = some t' := by
          rw [Fleet.step, there]
          dsimp only
          rw [stepped]
          exact List.getElem?_set_self (List.getElem?_eq_some_iff.mp there).1
        obtain ⟨n, done⟩ := ih _ (h ▸ move.rank_lt busy) (f.step i) t' next rfl
        exact ⟨n + 1, done⟩

theorem Fleet.length_run (f : Fleet) (schedule : List Nat) :
    (f.run schedule).threads.length = f.threads.length :=
  Fleet.run_induction (P := fun g => g.threads.length = f.threads.length) rfl
    (fun _ _ _ _ _ _ _ _ _ h => by rw [Fleet.after, List.length_set, h]) schedule

/-- From wherever the threads are, they can all be brought to an end. -/
theorem Fleet.exists_all_done (f : Fleet) :
    ∃ schedule, ∀ u ∈ (f.run schedule).threads, u.isDone = true := by
  have upTo (k : Nat) : ∃ schedule, ∀ j < k, ∀ u,
      (f.run schedule).threads[j]? = some u → u.isDone = true := by
    induction k with
    | zero => exact ⟨[], fun j hj => by omega⟩
    | succ k ih =>
      obtain ⟨schedule, before⟩ := ih
      obtain ⟨n, done⟩ := (f.run schedule).exists_done k
      use schedule ++ List.replicate n k
      intro j hj u hu
      rw [Fleet.run_append] at hu
      by_cases same : j = k
      · exact done u (same ▸ hu)
      · rw [Fleet.run_replicate_of_ne _ same] at hu
        exact before j (by omega) u hu
  obtain ⟨schedule, done⟩ := upTo f.threads.length
  use schedule
  intro u hu
  obtain ⟨j, hj, rfl⟩ := List.getElem_of_mem hu
  exact done j (f.length_run schedule ▸ hj) _ (List.getElem?_eq_getElem hj)

end MessageBus.Concurrency
