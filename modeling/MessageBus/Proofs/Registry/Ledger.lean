import MessageBus.Proofs.Registry.Roll

namespace MessageBus

/-- The name and the target every mailbox was made with. -/
structure Directory where
  name : MailboxId → String
  target : MailboxId → Target

def Directory.mailbox (d : Directory) (m : MailboxId) : Mailbox :=
  { id := m, name := d.name m, target := d.target m }

/-- A change asked of a registry. Mailboxes are named by their identity. -/
inductive Operation
  | subscribe (m : MailboxId)
  | unsubscribe (m : MailboxId)
  | clear
  deriving DecidableEq

/-- What an operation answers: the subscription that came or went, or why there is none. -/
abbrev Answer := Except BusError (Option Subscription)

/-- Carries out an operation. One that fails leaves the registry as it was. -/
def Registry.perform (d : Directory) (r : Registry) : Operation → Registry × Answer
  | .subscribe m =>
    let (r, seq) := r.subscribe (d.mailbox m)
    (r, .ok (some { seq, mailbox := d.mailbox m }))
  | .unsubscribe m =>
    match r.unsubscribe (d.mailbox m) with
    | .error e => (r, .error e)
    | .ok (r, removed) => (r, .ok (some removed))
  | .clear => (r.clear.1, .ok none)

/-- Carries out operations one after another, and lists their answers. -/
def Registry.performAll (d : Directory) (r : Registry) : List Operation → Registry × List Answer
  | [] => (r, [])
  | op :: ops =>
    let (r, answer) := r.perform d op
    let (r, answers) := r.performAll d ops
    (r, answer :: answers)

/-- One flat list of the live subscriptions to any types, in the order in which they were made, and
the number that the next one gets. -/
structure Ledger where
  live : Roll := []
  nextSeq : Nat := 0

namespace Ledger

/-- Subscribing appends to the list. Unsubscribing takes the earliest subscription of the mailbox
out of it, or fails when there is none. Clearing empties it. -/
def perform (d : Directory) (l : Ledger) : Operation → Ledger × Answer
  | .subscribe m =>
    let s : Subscription := { seq := l.nextSeq, mailbox := d.mailbox m }
    ({ live := l.live ++ [s], nextSeq := l.nextSeq + 1 }, .ok (some s))
  | .unsubscribe m =>
    match l.live.find? (·.mailbox.id = m) with
    | none => (l, .error (.notSubscribed (d.name m) (d.target m).tag))
    | some s => ({ l with live := l.live.without m }, .ok (some s))
  | .clear => ({ l with live := [] }, .ok none)

def performAll (d : Directory) (l : Ledger) : List Operation → Ledger × List Answer
  | [] => (l, [])
  | op :: ops =>
    let (l, answer) := l.perform d op
    let (l, answers) := l.performAll d ops
    (l, answer :: answers)

end Ledger

/-- A registry keeps a ledger when it lists it under the same next number, and every subscription is
one of a mailbox of the directory. -/
structure Registry.Keeps (d : Directory) (r : Registry) (l : Ledger) : Prop where
  lists : r.Lists l.live
  nextSeq : r.nextSeq = l.nextSeq
  known : ∀ s ∈ l.live, s.mailbox = d.mailbox s.mailbox.id

namespace Registry

variable {d : Directory} {r : Registry} {l : Ledger}

/-- The mailboxes of one identity are all subscribed to one type. -/
theorem Keeps.one_tag (h : r.Keeps d l) (m : MailboxId) :
    ∀ s ∈ l.live, s.mailbox.id = (d.mailbox m).id → s.mailbox.tag = (d.mailbox m).tag := by
  intro s hs hid
  rw [h.known s hs, hid]
  rfl

theorem Keeps.unsubscribe_none (h : r.Keeps d l) {m : MailboxId}
    (hs : l.live.find? (·.mailbox.id = m) = none) :
    r.perform d (.unsubscribe m) = (r, .error (.notSubscribed (d.name m) (d.target m).tag)) := by
  have refused := h.lists.unsubscribe_none (d.mailbox m) (h.one_tag m) hs
  rw [Registry.perform, refused]
  rfl

theorem Keeps.perform (h : r.Keeps d l) (op : Operation) :
    (r.perform d op).2 = (l.perform d op).2 ∧ (r.perform d op).1.Keeps d (l.perform d op).1 := by
  cases op with
  | subscribe m =>
    have lists := h.lists.subscribe (d.mailbox m)
    rw [h.nextSeq] at lists
    refine ⟨?_, lists, congrArg (· + 1) h.nextSeq, ?_⟩
    · simp [Registry.perform, Ledger.perform, subscribe, takeSeq, h.nextSeq]
    · intro s hs
      rcases List.mem_append.mp hs with hs | hs
      · exact h.known s hs
      · rw [List.mem_singleton.mp hs]
        rfl
  | unsubscribe m =>
    cases hs : l.live.find? (·.mailbox.id = m) with
    | none =>
      simp only [h.unsubscribe_none hs, Ledger.perform, hs]
      exact ⟨trivial, h⟩
    | some s =>
      obtain ⟨r', done, lists, seq⟩ := h.lists.unsubscribe_some (d.mailbox m) (h.one_tag m) hs
      simp only [Registry.perform, done, Ledger.perform, hs]
      exact ⟨trivial, lists, seq.trans h.nextSeq,
        fun s hs => h.known s (Roll.mem_of_mem_without hs)⟩
  | clear => exact ⟨rfl, lists_clear r, h.nextSeq, by simp [Ledger.perform]⟩

theorem Keeps.performAll (h : r.Keeps d l) (ops : List Operation) :
    (r.performAll d ops).2 = (l.performAll d ops).2 ∧
      (r.performAll d ops).1.Keeps d (l.performAll d ops).1 := by
  induction ops generalizing r l with
  | nil => exact ⟨rfl, h⟩
  | cons op ops ih =>
    obtain ⟨answer, kept⟩ := h.perform op
    obtain ⟨answers, kept⟩ := ih kept
    exact ⟨congrArg₂ List.cons answer answers, kept⟩

/-- The lists by type are one flat list of live subscriptions: whatever is asked of a registry from
its beginning on, it answers as the flat list does, and every look-up reads the flat list. -/
theorem performAll_eq_ledger (d : Directory) (ops : List Operation) :
    let r := (({} : Registry).performAll d ops).1
    let S := (({} : Ledger).performAll d ops).1.live
    (({} : Registry).performAll d ops).2 = (({} : Ledger).performAll d ops).2 ∧
    (∀ m e, r.perform d (.unsubscribe m) = (r, .error e) ↔
      (∀ s ∈ S, s.mailbox.id ≠ m) ∧ e = .notSubscribed (d.name m) (d.target m).tag) ∧
    (∀ tags, r.entriesFor tags = tags.filterMap S.route?) ∧
    (∀ t, r.countFor t = (S.listFor t).length) ∧
    r.size = S.length ∧
    (r.isEmpty = true ↔ S = []) := by
  intro r S
  have start : ({} : Registry).Keeps d {} := ⟨lists_empty, rfl, by simp⟩
  obtain ⟨answers, kept⟩ := start.performAll ops
  refine ⟨answers, ?_, kept.lists.entriesFor, kept.lists.countFor, kept.lists.size,
    kept.lists.isEmpty⟩
  intro m e
  have same := (kept.perform (.unsubscribe m)).1
  constructor
  · intro refused
    rw [refused] at same
    cases hs : S.find? (·.mailbox.id = m) with
    | none =>
      simp only [Ledger.perform, S, hs, Except.error.injEq] at same
      exact ⟨by simpa [List.find?_eq_none] using hs, same⟩
    | some s => simp [Ledger.perform, S, hs] at same
  · rintro ⟨absent, rfl⟩
    apply kept.unsubscribe_none
    simpa [List.find?_eq_none] using absent

end Registry

end MessageBus
