import MessageBus.Exchange.Scenario
import MessageBus.Proofs.Exchange.Reach

namespace MessageBus

namespace Log.Book

/-- A book has what its subscriber lets through of what it is told, in order. -/
theorem foldl_note_of_some {b : Book} {s : Subscriber} (h : b.subscriber = some s)
    (es : List Event) :
    es.foldl note b = { b with latest := (es.filter s.filter.allows).reverse ++ b.latest } := by
  induction es generalizing b with
  | nil => rfl
  | cons e es ih =>
    by_cases passes : s.filter.allows e
    · have kept : b.note e = { b with latest := e :: b.latest } := by simp [note, h, passes]
      rw [List.foldl_cons, kept, ih (b := { b with latest := e :: b.latest }) h,
        List.filter_cons_of_pos passes]
      simp
    · have same : b.note e = b := by simp [note, h, passes]
      rw [List.foldl_cons, same, ih h, List.filter_cons_of_neg passes]

end Log.Book

namespace Exchange

/-- What was logged among some occurrences. -/
def logged (h : List Occurrence) : List Log.Event := h.filterMap Occurrence.event?

@[simp]
theorem logged_append (h h' : List Occurrence) : logged (h ++ h') = logged h ++ logged h' :=
  List.filterMap_append

/-- A relation between exchanges before and after: the book was told of all that was logged in
between, in order, and of nothing else. -/
def Heeds (w v : Exchange) : Prop :=
  ∃ new, v.history = w.history ++ new ∧ v.book = (logged new).foldl Log.Book.note w.book

namespace Heeds

theorem of_still {w v : Exchange} (ht : v.trace = w.trace) (hb : v.book = w.book) : Heeds w v :=
  ⟨[], by simp [history, ht], hb⟩

theorem refl (w : Exchange) : Heeds w w := of_still rfl rfl

theorem trans {u v w : Exchange} (h : Heeds u v) (h' : Heeds v w) : Heeds u w := by
  obtain ⟨new, hist, book⟩ := h
  obtain ⟨new', hist', book'⟩ := h'
  refine ⟨new ++ new', ?_, ?_⟩
  · rw [hist', hist, List.append_assoc]
  · rw [book', book, logged_append, List.foldl_append]

/-- A change that is told of, but not logged. -/
theorem record {w u : Exchange} (o : Occurrence) (ho : Occurrence.event? o = none)
    (ht : u.trace = w.trace) (hb : u.book = w.book) : Heeds w (u.record o) := by
  refine ⟨[o], by simp [history, Exchange.record, ht], ?_⟩
  rw [logged, List.filterMap_cons_none ho]
  exact hb

theorem log {w v : Exchange} (h : Heeds w v) (e : Log.Event) : Heeds w (v.log e) :=
  h.trans ⟨[.logged e], history_log v e, rfl⟩

end Heeds

theorem Move.heeds {w v : Exchange} (step : Move w v) : Heeds w v := by
  cases step with
  | logged e => exact (Heeds.refl w).log e
  | announced a => exact .record (.announced a) rfl rfl rfl
  | struck x => cases x <;> exact .record (.dropped _) rfl rfl rfl
  | resolved b m =>
    cases hb : w.buses[b]? with
    | none =>
      rw [resolve_none hb]
      exact .refl w
    | some cell =>
      obtain ⟨u, rfl | ⟨line, rfl⟩, e⟩ := resolve_some hb m <;> rw [e]
      · exact .of_still rfl rfl
      · exact ((Heeds.refl w).log line).trans (.of_still rfl rfl)
  | subscribed b cell m =>
    have made : Heeds w ((w.modifyBus b fun c =>
        { c with registry := (cell.registry.subscribe m).1 }).record
          (.subscribed b { seq := (cell.registry.subscribe m).2, mailbox := m })) :=
      .record _ rfl rfl rfl
    exact made.log _
  | unsubscribed b cell m => exact .record (.unsubscribed b m) rfl rfl rfl
  | cleared b => exact .record (.cleared b) rfl rfl rfl
  | emptied r role => exact .record (.emptied r role) rfl rfl rfl
  | broken r role => exact .record (.emptied r role) rfl rfl rfl
  | _ => exact .of_still rfl rfl

theorem Mark.heeds {w v : Exchange} (step : Mark w v) : Heeds w v := by
  cases step with
  | returned d x =>
    have told : Heeds w (w.record (.returned d x)) := .record _ rfl rfl rfl
    rw [keepReturned]
    split
    · exact told
    · exact told.trans (.of_still rfl rfl)
  | failed d x =>
    have told : Heeds w (w.record (.failed d x)) := .record _ rfl rfl rfl
    rw [keepFailed]
    split
    · exact told
    · exact told.trans (.of_still rfl rfl)
  | _ => exact .record _ rfl rfl rfl

/-- Nothing is logged without the book, and nothing else is put into it. -/
theorem Leads.heeds {w v : Exchange} (h : Leads w v) : Heeds w v := by
  induction h with
  | refl => exact .refl w
  | tail _ step ih => exact ih.trans (step.elim Move.heeds Mark.heeds)

theorem historySince_of_append {w v : Exchange} {new : List Occurrence}
    (h : v.history = w.history ++ new) : v.historySince w.trace.length = new := by
  have trace : v.trace = new.reverse ++ w.trace := by
    simpa [history] using congrArg List.reverse h
  simp [historySince, trace]

/-- The scene of a step has all that the book was told of in its course. -/
theorem playStep_book (w : Exchange) (step : Step) :
    (w.playStep step).1.book = (w.playStep step).2.events.foldl Log.Book.note w.book := by
  obtain ⟨new, hist, book⟩ := (leads_step depthLimit (.guarded step) w).heeds
  have since : (w.playStep step).2.events = logged new :=
    congrArg logged (historySince_of_append hist)
  rw [since]
  exact book

theorem play_book (w : Exchange) (steps : List Step) :
    (w.play steps).1.book =
      ((w.play steps).2.flatMap (·.events)).foldl Log.Book.note w.book := by
  induction steps generalizing w with
  | nil => rfl
  | cons step rest ih =>
    rw [play]
    dsimp only
    split
    · simp only [List.flatMap_cons, List.flatMap_nil, List.append_nil]
      exact playStep_book w step
    · simp only [List.flatMap_cons, List.foldl_append]
      rw [ih, playStep_book]

end Exchange

end MessageBus
