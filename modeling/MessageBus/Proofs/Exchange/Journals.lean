import MessageBus.Proofs.Exchange.Calls

namespace MessageBus.Exchange

/-- What a journal notes of an occurrence: the invocation of a mailbox that writes into it. -/
def noteOf (w : Exchange) (j : JournalId) : Occurrence → Option DeliveryRecord
  | .invoked d s => if w.journalOf s.mailbox.id = some j then s.mailbox.entry? d.message else none
  | _ => none

/-- What holds of the journals of every exchange that comes about: those that are named or written
into are there, and each has what its mailboxes were invoked with, in order. -/
structure Journalled (w : Exchange) : Prop where
  named : ∀ label j, w.desk.journals.get? label = some j → j < w.journals.length
  written : ∀ m j, w.journalOf m = some j → j < w.journals.length
  invoked : ∀ d s, .invoked d s ∈ w.history → s.mailbox.id < w.mailboxes.length
  kept : ∀ (j : JournalId) lines, w.journals[j]? = some lines →
    lines.reverse = w.history.filterMap (w.noteOf j)

theorem noteOf_eq_none {w : Exchange} {j : JournalId} {o : Occurrence} (h : o.invocation? = none) :
    w.noteOf j o = none := by
  cases o with
  | invoked d s => cases h
  | _ => rfl

variable {w v : Exchange}

/-- A change in which no mailbox is invoked. -/
theorem Journalled.advance (h : w.Journalled) {new : List Occurrence} (lasts : Lasting w v)
    (files : Files w v) (hist : v.history = w.history ++ new)
    (silent : ∀ o ∈ new, o.invocation? = none) : v.Journalled := by
  have longer : w.journals.length ≤ v.journals.length := by
    rcases files.journals with same | more
    · exact same ▸ Nat.le_refl _
    · rw [more, List.length_append]
      exact Nat.le_add_right _ _
  have named : ∀ label j, v.desk.journals.get? label = some j → j < v.journals.length := by
    intro label j hj
    rcases files.named label j hj with old | fresh
    · exact Nat.lt_of_lt_of_le (h.named label j old) longer
    · exact fresh
  refine ⟨named, fun m j hj => ?_, fun d s hs => ?_, fun j lines hl => ?_⟩
  · rcases files.handlers m j hj with old | ⟨label, at_label⟩
    · exact Nat.lt_of_lt_of_le (h.written m j old) longer
    · exact named label j at_label
  · rw [hist, List.mem_append] at hs
    rcases hs with old | fresh
    · exact Nat.lt_of_lt_of_le (h.invoked d s old) lasts.length_mailboxes
    · cases silent _ fresh
  · have same : w.history.filterMap (v.noteOf j) = w.history.filterMap (w.noteOf j) := by
      refine List.filterMap_congr fun o ho => ?_
      cases o with
      | invoked d s => rw [noteOf, noteOf, lasts.journalOf_eq (h.invoked d s ho)]
      | _ => rfl
    have nothing : new.filterMap (v.noteOf j) = [] :=
      List.filterMap_eq_nil_iff.mpr fun o ho => noteOf_eq_none (silent o ho)
    rw [hist, List.filterMap_append, nothing, List.append_nil, same]
    rcases files.journals with kept | more
    · exact h.kept j lines (kept ▸ hl)
    · rw [more] at hl
      rcases Nat.lt_or_ge j w.journals.length with below | above
      · exact h.kept j lines (by rwa [List.getElem?_append_left below] at hl)
      · -- A journal that is new is empty, and nobody has written into it.
        have unwritten : w.history.filterMap (w.noteOf j) = [] := by
          refine List.filterMap_eq_nil_iff.mpr fun o _ => ?_
          cases o with
          | invoked d s =>
            have nobody : w.journalOf s.mailbox.id ≠ some j := fun writes =>
              Nat.not_lt.mpr above (h.written _ j writes)
            rw [noteOf, if_neg nobody]
          | _ => rfl
        rw [List.getElem?_append_right above, List.getElem?_singleton] at hl
        split at hl
        · rw [← Option.some.inj hl, unwritten]
          rfl
        · cases hl

/-- A mailbox that is invoked writes at once into its journal. -/
theorem Journalled.noted (h : w.Journalled) (d : Dispatch) (s : Subscription)
    (there : s.mailbox.id < w.mailboxes.length) :
    ((w.asking d (s.mailbox.tag, s)).noteFor s.mailbox d.message).Journalled := by
  let line := Log.Event.delivering d.message.tag s.mailbox.tag s.mailbox.name s.seq
  let asked := w.asking d (s.mailbox.tag, s)
  have hist : asked.history = w.history ++ [.logged line, .invoked d s] := by
    rw [show asked = (w.log line).record (.invoked d s) from rfl, history_record, history_log,
      List.append_assoc]
    rfl
  have invoked : ∀ d' s', .invoked d' s' ∈ asked.history → s'.mailbox.id < w.mailboxes.length := by
    intro d' s' hs
    rw [hist, List.mem_append] at hs
    rcases hs with old | fresh
    · exact h.invoked d' s' old
    · have same : d' = d ∧ s' = s := by simpa using fresh
      exact same.2 ▸ there
  have all (j : JournalId) : asked.history.filterMap (w.noteOf j) =
      w.history.filterMap (w.noteOf j) ++ (w.noteOf j (.invoked d s)).toList := by
    have skipped : w.noteOf j (.logged line) = none := rfl
    rw [hist, List.filterMap_append, List.filterMap_cons_none skipped]
    cases noted : w.noteOf j (.invoked d s) with
    | none => rw [List.filterMap_cons_none noted, List.filterMap_nil, Option.toList_none]
    | some entry => rw [List.filterMap_cons_some noted, List.filterMap_nil, Option.toList_some]
  -- Nothing is written when the mailbox has no journal, or does not see the message.
  have unwritten (silent : ∀ j, w.noteOf j (.invoked d s) = none) : asked.Journalled := by
    refine ⟨h.named, h.written, invoked, fun j lines hl => ?_⟩
    exact (h.kept j lines hl).trans ((all j).trans (by rw [silent]; simp)).symm
  rw [noteFor]
  cases has : asked.journalOf s.mailbox.id with
  | none =>
    have none_there : w.journalOf s.mailbox.id = none := has
    exact unwritten fun j => by rw [noteOf, none_there]; rfl
  | some i =>
    have at_i : w.journalOf s.mailbox.id = some i := has
    cases sees : s.mailbox.entry? d.message with
    | none => exact unwritten fun j => by rw [noteOf, sees, ite_self]
    | some entry =>
      refine ⟨fun label j hj => ?_, fun m j hj => ?_, invoked, fun j lines hl => ?_⟩
      · exact (List.length_modify _ _ _).symm ▸ h.named label j hj
      · exact (List.length_modify _ _ _).symm ▸ h.written m j hj
      · have here : asked.history.filterMap (w.noteOf j) = lines.reverse := by
          rw [all, noteOf, at_i, sees]
          have modified : (w.journals.modify i (entry :: ·))[j]? = some lines := hl
          rw [List.getElem?_modify] at modified
          obtain ⟨old, before, rfl⟩ := Option.map_eq_some_iff.mp modified
          rw [← h.kept j old before]
          by_cases same : i = j
          · simp [same]
          · simp [same]
        exact here.symm

theorem files_tell (w : Exchange) (line : Option Log.Event) : (w.tell line).files = w.files := by
  cases line <;> rfl

theorem files_keepFailed (w : Exchange) (x : FailedMessage) : (w.keepFailed x).files = w.files := by
  rw [keepFailed]
  split <;> rfl

theorem files_keepReturned (w : Exchange) (x : ReturnedMessage) :
    (w.keepReturned x).files = w.files := by
  rw [keepReturned]
  split <;> rfl

theorem files_settle (w : Exchange) (d : Dispatch) (s : Subscription) (outcome : Outcome) :
    (w.settle d s outcome).files = w.files := by
  match outcome with
  | .ok (some (.recoverable cause)) =>
    rw [settle, files_tell, files_keepFailed]
    rfl
  | .ok (some (.fatal _)) | .ok none | .error _ => rfl

theorem files_returning (w : Exchange) (d : Dispatch) : (w.returning d).files = w.files := by
  rw [returning, files_tell, files_keepReturned]
  rfl

theorem verdict_silent (w : Exchange) (d : Dispatch) (s : Subscription) (outcome : Outcome) :
    ∀ o ∈ w.verdict d s outcome, o.invocation? = none := by
  match outcome with
  | .ok (some (.recoverable cause)) => simp [verdict, Occurrence.invocation?]
  | .ok (some (.fatal _)) => simp [verdict, Occurrence.invocation?]
  | .ok none | .error _ => simp [verdict]

theorem unclaimed_silent (w : Exchange) (d : Dispatch) (plan : List (Tag × Subscription)) :
    ∀ o ∈ w.unclaimed d plan, o.invocation? = none := by
  cases plan <;> simp [unclaimed, Occurrence.invocation?]

theorem Sound.id_lt (h : w.Sound) {m : Mailbox} (hm : m ∈ w.mailboxes.map (·.mailbox)) :
    m.id < w.mailboxes.length := by
  obtain ⟨i, hi⟩ := List.mem_iff_getElem?.mp hm
  obtain ⟨below, -⟩ := List.getElem?_eq_some_iff.mp hi
  rw [h.mailboxes i m hi]
  simpa using below

/-- Whatever goes on in a run, the journals stay in order. -/
theorem attested_journalled : Attested (fun w v => w.Journalled → v.Journalled)
    (fun _ _ w v => w.Journalled → v.Journalled) where
  refl _ := id
  trans _ p q h := q (p h)
  modest _ step small h := by
    obtain ⟨-, new, hist, free⟩ := step.aside
    refine h.advance (.move step) small.files hist fun o ho => ?_
    have nowhere := free o ho
    cases o with
    | invoked => cases nowhere
    | _ => rfl
  emitted w e h := by
    have hist : ((w.log e).announce (.ran "emit" .done)).history =
        w.history ++ [.logged e, .announced (.ran "emit" .done)] := by
      rw [announce, history_record, history_log, List.append_assoc]
      rfl
    exact h.advance (.still rfl rfl) (.of_eq rfl) hist (by simp [Occurrence.invocation?])
  inside p := p
  seq _ p q h := q (p h)
  asked {d plan s w u} outcome hw _ _ known _ settled p h := by
    have noted := p (h.noted d s (hw.sound.id_lt known))
    refine noted.advance settled.lasting (.of_eq (files_settle u d s outcome))
      (history_settle u d s outcome) fun o ho => ?_
    rcases List.mem_cons.mp ho with rfl | ho
    · rfl
    · exact verdict_silent u d s outcome o ho
  heard w result h :=
    h.advance (.still rfl rfl) (.of_eq rfl) (history_record w _) (by simp [Occurrence.invocation?])
  released w result h :=
    h.advance (.still rfl rfl) (.of_eq rfl) (history_record w _) (by simp [Occurrence.invocation?])
  matched {w v d routes} result _ _ _ p h := by
    have begun : (w.beginDispatch d routes).Journalled :=
      h.advance (.still rfl rfl) (.of_eq rfl) (history_record { w with dispatches := _ } _)
        (by simp [Occurrence.invocation?])
    exact (p begun).advance (.still rfl rfl) (.of_eq rfl) (history_record v _)
      (by simp [Occurrence.invocation?])
  unmatched {w v d} heard result _ returned _ p h := by
    have begun : (w.returning d).Journalled := by
      refine h.advance returned.lasting (.of_eq (files_returning w d)) (history_returning w d)
        fun o ho => ?_
      rcases List.mem_cons.mp ho with rfl | ho
      · rfl
      · exact unclaimed_silent w d [] o ho
    have told : (v.record (.heard d heard)).Journalled :=
      (p begun).advance (.still rfl rfl) (.of_eq rfl) (history_record v _)
        (by simp [Occurrence.invocation?])
    exact told.advance (.still rfl rfl) (.of_eq rfl) (history_record _ _)
      (by simp [Occurrence.invocation?])

/-- The journals of a run have what their mailboxes were invoked with. -/
theorem journalled_run (steps : List (Nat × Step)) : (run {} steps).Journalled := by
  have empty : ({} : Exchange).Journalled :=
    ⟨by simp [Shelf.get?], by simp [journalOf], by simp [history], by simp⟩
  have told (w : Exchange) (e : Log.Event) (h : w.Journalled) : (w.log e).Journalled :=
    h.advance (.still rfl rfl) (.of_eq rfl) (history_log w e) (by simp [Occurrence.invocation?])
  exact attested_journalled.run told (w := {}) .refl steps empty

end MessageBus.Exchange
