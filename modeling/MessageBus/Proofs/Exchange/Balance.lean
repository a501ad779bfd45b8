import MessageBus.Proofs.Exchange.Course

namespace MessageBus

/-- A dispatch that matches nothing begins on one of some buses. -/
@[simp]
def Occurrence.isUnmatched (on : BusId → Bool) : Occurrence → Bool
  | .published d [] => on d.bus
  | _ => false

/-- A dispatch has a message of one of some buses returned. -/
@[simp]
def Occurrence.isReturned (on : BusId → Bool) : Occurrence → Bool
  | .returned _ x => on x.bus
  | _ => false

/-- A mailbox refuses a message of one of some buses recoverably. -/
@[simp]
def Occurrence.isRefused (on : BusId → Bool) : Occurrence → Bool
  | .answered d _ (.ok (some (.recoverable _))) => on d.bus
  | _ => false

/-- A dispatch reports a failure on one of some buses. -/
@[simp]
def Occurrence.isFailed (on : BusId → Bool) : Occurrence → Bool
  | .failed _ x => on x.bus
  | _ => false

/-- Every dispatch that matched nothing had its message returned, and every recoverable refusal was
reported, on whichever buses that was. -/
structure Balanced (h : List Occurrence) : Prop where
  returned : ∀ on, h.countP (Occurrence.isUnmatched on) = h.countP (Occurrence.isReturned on)
  failed : ∀ on, h.countP (Occurrence.isRefused on) = h.countP (Occurrence.isFailed on)

theorem Balanced.append {h h' : List Occurrence} (hb : Balanced h) (hb' : Balanced h') :
    Balanced (h ++ h') := by
  refine ⟨fun on => ?_, fun on => ?_⟩
  · rw [List.countP_append, List.countP_append, hb.returned, hb'.returned]
  · rw [List.countP_append, List.countP_append, hb.failed, hb'.failed]

theorem Balanced.of_aside {h : List Occurrence} (ha : ∀ o ∈ h, o.dispatch? = none) :
    Balanced h := by
  have zero (p : Occurrence → Bool) (hp : ∀ o, p o = true → o.dispatch? ≠ none) :
      h.countP p = 0 :=
    List.countP_eq_zero.mpr fun o ho hpo => hp o hpo (ha o ho)
  refine ⟨fun on => ?_, fun on => ?_⟩
  · rw [zero (Occurrence.isUnmatched on), zero (Occurrence.isReturned on)] <;> intro o <;>
      cases o <;> simp [Occurrence.dispatch?]
  · rw [zero (Occurrence.isRefused on), zero (Occurrence.isFailed on)] <;> intro o <;>
      cases o <;> simp [Occurrence.dispatch?]

/-- What a dispatch does itself and what it does not are counted apart. -/
theorem Balanced.of_own {n : Nat} {h : List Occurrence} (ho : Balanced (own n h))
    (hf : Balanced (foreign n h)) : Balanced h := by
  have split (p : Occurrence → Bool) :
      h.countP p = (own n h).countP p + (foreign n h).countP p :=
    List.countP_eq_countP_filter_add h p (·.isOf n)
  refine ⟨fun on => ?_, fun on => ?_⟩
  · rw [split, split, ho.returned, hf.returned]
  · rw [split, split, ho.failed, hf.failed]

theorem balanced_turn (d : Dispatch) (answer : Subscription × Option Cause) :
    Balanced (d.turn answer) := by
  obtain ⟨s, _ | cause⟩ := answer <;> constructor <;> intro on <;>
    cases h : on d.bus <;> simp [Dispatch.turn, Dispatch.failure, h]

theorem balanced_turns (d : Dispatch) (answers : List (Subscription × Option Cause)) :
    Balanced (answers.flatMap d.turn) := by
  induction answers with
  | nil => exact .of_aside (by simp)
  | cons x answers ih => exact (balanced_turn d x).append ih

variable {d : Dispatch} {plan : List (Tag × Subscription)} {os course : List Occurrence}
  {result : Except Halt (Option BusError)}

theorem Cut.balanced {entry : Tag × Subscription} (h : Cut d entry os result) :
    Balanced (own d.number os) := by
  cases h with
  | aborted during cause hd =>
    rw [own_append, own_asking hd]
    constructor <;> intro on <;> simp [own, Occurrence.isOf, Occurrence.dispatch?]
  | halted during h hd =>
    rw [own_asking hd]
    constructor <;> intro on <;> simp
  | unheard during cause sunk h hd hs =>
    rw [own_append, own_asking hd, own_reporting hs]
    constructor <;> intro on <;> cases hb : on d.bus <;> simp [Dispatch.failure, hb]

theorem Delivery.balanced (h : Delivery d plan os result) : Balanced (own d.number os) := by
  obtain ⟨turns, calm, ⟨-, rfl, -⟩ | ⟨entry, rest, last, -, rfl, cut⟩⟩ := h.turns
  · rw [own_turns calm]
    exact balanced_turns d _
  · rw [own_append, own_turns calm]
    exact (balanced_turns d _).append cut.balanced

/-- A dispatch with mailboxes to go to has nothing returned, whatever comes after it. -/
theorem Balanced.of_plan {h : List Occurrence} (hb : Balanced h) (hp : plan ≠ [])
    (last : List Occurrence) (hl : ∀ o ∈ last, ∀ on, o.isUnmatched on = false ∧
      o.isReturned on = false ∧ o.isRefused on = false ∧ o.isFailed on = false) :
    Balanced (.published d plan :: (h ++ last)) := by
  obtain ⟨entry, rest, rfl⟩ := List.exists_cons_of_ne_nil hp
  have zero (p : Occurrence → Bool) (hp : ∀ o ∈ last, p o = false) : last.countP p = 0 :=
    List.countP_eq_zero.mpr fun o ho => by simp [hp o ho]
  refine ⟨fun on => ?_, fun on => ?_⟩
  · have first := zero _ fun o ho => (hl o ho on).1
    have second := zero _ fun o ho => (hl o ho on).2.1
    simpa [first, second] using hb.returned on
  · have first := zero _ fun o ho => (hl o ho on).2.2.1
    have second := zero _ fun o ho => (hl o ho on).2.2.2
    simpa [first, second] using hb.failed on

theorem Course.balanced (h : Course d plan course result) :
    Balanced (.published d plan :: own d.number course) := by
  cases h with
  | unmatched sunk result hs =>
    rw [own_append, own_append, hs.own_eq]
    constructor <;> intro on <;> cases hb : on d.bus <;> 
      simp [own, Occurrence.isOf, Occurrence.dispatch?, Dispatch.unmatched, hb]
  | matched dropped after hp h hd _ =>
    rw [own_append, own_append, hd.own_eq, List.append_nil]
    exact h.balanced.of_plan hp _ (by simp [own, Occurrence.isOf, Occurrence.dispatch?])
  | stopped hp h =>
    rw [own_append]
    exact h.balanced.of_plan hp _ (by simp [own, Occurrence.isOf, Occurrence.dispatch?])

end MessageBus
