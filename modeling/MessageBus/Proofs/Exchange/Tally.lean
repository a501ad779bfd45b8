import MessageBus.Proofs.Exchange.Reach

namespace MessageBus

/-- What a tray keeps, oldest first, unless it is broken. -/
def Tray.kept {α : Type} : Tray α → Option (List α)
  | intact latest => some latest.reverse
  | broken => none

theorem Tray.kept_add {α : Type} (t : Tray α) (x : α) :
    (t.add x).kept = t.kept.map (· ++ [x]) := by
  cases t with
  | intact latest => simp [add, kept]
  | broken => rfl

theorem Tray.toList_of_kept {α : Type} {t : Tray α} {xs : List α} (h : t.kept = some xs) :
    t.toList = xs := by
  cases t with
  | intact latest => exact Option.some.inj h
  | broken => cases h

/-- What a sink is handed in a role. -/
abbrev SinkRole.Record : SinkRole → Type
  | .deadLetter => ReturnedMessage
  | .failure => FailedMessage

/-- The bus whose sink is handed a record. -/
def SinkRole.busOf : (role : SinkRole) → role.Record → BusId
  | .deadLetter => ReturnedMessage.bus
  | .failure => FailedMessage.bus

/-- What a recorder keeps in a role, oldest first, unless that tray is broken. -/
def Recorder.kept (c : Recorder) : (role : SinkRole) → Option (List role.Record)
  | .deadLetter => c.returned.kept
  | .failure => c.failed.kept

/-- The record that is handed to a sink in a role. -/
def Occurrence.handed? : (role : SinkRole) → Occurrence → Option role.Record
  | .deadLetter, .returned _ x => some x
  | .failure, .failed _ x => some x
  | _, _ => none

namespace Exchange

/-- The recorder that serves a bus in a role, if one does. -/
def box (w : Exchange) : SinkRole → BusId → Option RecorderId
  | .deadLetter => w.returnedBox
  | .failure => w.failedBox

/-- What a recorder keeps in a role. -/
def kept (w : Exchange) (r : RecorderId) (role : SinkRole) : Option (List role.Record) :=
  (w.recorders[r]?).bind (·.kept role)

/-- The record that is handed to a recorder in a role, if one is. -/
def taken (w : Exchange) (role : SinkRole) (r : RecorderId) (o : Occurrence) :
    Option role.Record :=
  (o.handed? role).filter fun x => w.box role (role.busOf x) = some r

/-- What holds of the recorders of every exchange that comes about: those that are named or serve a
bus are there, and each tray that was never emptied keeps all records that it was handed, in
order. -/
structure Tallied (w : Exchange) : Prop where
  named : ∀ label r, w.desk.recorders.get? label = some r → r < w.recorders.length
  boxes : ∀ role b r, w.box role b = some r → r < w.recorders.length
  buses : ∀ role, ∀ o ∈ w.history, ∀ x ∈ o.handed? role, role.busOf x < w.buses.length
  kept : ∀ role r, r < w.recorders.length → .emptied r role ∉ w.history →
    w.kept r role = some (w.history.filterMap (w.taken role r))

/-- Recorders are added to and emptied only as the history tells. -/
structure Advance (w v : Exchange) (new : List Occurrence) : Prop where
  desk : v.desk.recorders = w.desk.recorders
  recorders : v.recorders.length = w.recorders.length
  buses : v.buses.length = w.buses.length
  box : v.box = w.box
  history : v.history = w.history ++ new
  handed : ∀ role, ∀ o ∈ new, ∀ x ∈ o.handed? role, role.busOf x < w.buses.length
  kept : ∀ role r, .emptied r role ∉ new →
    v.kept r role = (w.kept r role).map (· ++ new.filterMap (w.taken role r))

/-- The recorder under a label, with what it keeps. -/
theorem Tallied.recorder {w : Exchange} (h : w.Tallied) {label : String} {r : RecorderId}
    (hr : w.desk.recorders.get? label = some r) :
    ∃ c, w.recorders[r]? = some c ∧ ∀ role, .emptied r role ∉ w.history →
      c.kept role = some (w.history.filterMap (w.taken role r)) := by
  have there := List.getElem?_eq_getElem (h.named label r hr)
  refine ⟨_, there, fun role he => ?_⟩
  have all := h.kept role r (h.named label r hr) he
  rwa [Exchange.kept, there] at all

theorem Tallied.advance {w v : Exchange} {new : List Occurrence} (h : w.Tallied)
    (a : Advance w v new) : v.Tallied := by
  have sorted (role : SinkRole) (r : RecorderId) : v.taken role r = w.taken role r := by
    funext o
    rw [taken, taken, a.box]
  refine ⟨fun label r hr => ?_, fun role b r hr => ?_, fun role o ho x hx => ?_,
    fun role r hr he => ?_⟩
  · rw [a.recorders]
    exact h.named label r (a.desk ▸ hr)
  · rw [a.recorders]
    exact h.boxes role b r (a.box ▸ hr)
  · rw [a.buses]
    rw [a.history, List.mem_append] at ho
    exact ho.elim (fun ho => h.buses role o ho x hx) fun ho => a.handed role o ho x hx
  · rw [a.history, List.mem_append, not_or] at he
    rw [a.kept role r he.2, h.kept role r (a.recorders ▸ hr) he.1, sorted, a.history,
      List.filterMap_append]
    rfl

theorem kept_modifyRecorder (w : Exchange) (r s : RecorderId) (f : Recorder → Recorder)
    (role : SinkRole) : (w.modifyRecorder r f).kept s role =
      if s = r then (w.recorders[r]?).bind fun c => (f c).kept role else w.kept s role := by
  rw [kept, modifyRecorder, List.getElem?_modify]
  by_cases e : s = r
  · rw [if_pos e, e]
    cases w.recorders[r]? <;> simp
  · rw [if_neg e, kept]
    simp [Ne.symm e]

theorem box_eq {w v : Exchange} (h : v.buses.map (fun c => (c.deadLetters, c.failures)) =
    w.buses.map fun c => (c.deadLetters, c.failures)) : v.box = w.box := by
  have at_each (b : BusId) : (v.buses[b]?).map (fun c => (c.deadLetters, c.failures)) =
      (w.buses[b]?).map fun c => (c.deadLetters, c.failures) := by
    simpa only [List.getElem?_map] using congrArg (·[b]?) h
  funext role b
  have same := at_each b
  cases role <;> simp only [box, returnedBox, failedBox] <;>
    cases hv : v.buses[b]? <;> cases hw : w.buses[b]? <;> simp_all

/-- A change that leaves recorders and the sinks of buses alone. -/
theorem Advance.of_still {w v : Exchange} {new : List Occurrence}
    (hd : v.desk.recorders = w.desk.recorders) (hr : v.recorders = w.recorders)
    (hb : v.buses.map (fun c => (c.deadLetters, c.failures)) =
      w.buses.map fun c => (c.deadLetters, c.failures))
    (hist : v.history = w.history ++ new) (hn : ∀ role, ∀ o ∈ new, o.handed? role = none) :
    Advance w v new := by
  refine ⟨hd, congrArg List.length hr, by simpa using congrArg List.length hb, box_eq hb, hist,
    fun role o ho x hx => ?_, fun role r _ => ?_⟩
  · rw [hn role o ho] at hx
    simp at hx
  · have none_taken : new.filterMap (w.taken role r) = [] :=
      List.filterMap_eq_nil_iff.mpr fun o ho => by simp [taken, hn role o ho]
    rw [none_taken, Exchange.kept, Exchange.kept, hr]
    simp

theorem Tallied.still {w v : Exchange} (h : w.Tallied) (hd : v.desk.recorders = w.desk.recorders)
    (hr : v.recorders = w.recorders) (hb : v.buses.map (fun c => (c.deadLetters, c.failures)) =
      w.buses.map fun c => (c.deadLetters, c.failures)) (ht : v.trace = w.trace) : v.Tallied := by
  have hist : v.history = w.history ++ [] := by
    rw [history, ht, List.append_nil]
    rfl
  exact h.advance (.of_still hd hr hb hist (by simp))

theorem Tallied.record {w : Exchange} (h : w.Tallied) (o : Occurrence)
    (ho : ∀ role, o.handed? role = none) : (w.record o).Tallied :=
  h.advance (.of_still rfl rfl rfl (history_record w o) (by simpa using ho))

theorem Tallied.modifyBus {w : Exchange} (h : w.Tallied) (b : BusId) (f : BusCell → BusCell)
    (hf : ∀ c, ((f c).deadLetters, (f c).failures) = (c.deadLetters, c.failures)) :
    (w.modifyBus b f).Tallied :=
  h.still rfl rfl (map_modify_of_still _ f hf b w.buses) rfl

theorem Tallied.modifyRecorder {w : Exchange} (h : w.Tallied) (r : RecorderId)
    (f : Recorder → Recorder) (hf : ∀ c role, (f c).kept role = c.kept role) :
    (w.modifyRecorder r f).Tallied := by
  have advance : Advance w (w.modifyRecorder r f) [] := by
    refine ⟨rfl, by simp [Exchange.modifyRecorder], rfl, rfl, (List.append_nil _).symm, by simp,
      fun role s _ => ?_⟩
    rw [kept_modifyRecorder]
    simp only [List.filterMap_nil, List.append_nil, Option.map_id']
    split
    · next e =>
      simp only [hf, e]
      rfl
    · rfl
  exact h.advance advance

theorem Tallied.addRecorder {w : Exchange} (h : w.Tallied) (label : String) :
    (w.addRecorder label).Tallied := by
  have longer : (w.addRecorder label).recorders.length = w.recorders.length + 1 := by
    simp [Exchange.addRecorder]
  refine ⟨fun other r hr => ?_, fun role b r hr => ?_, h.buses, fun role r hr he => ?_⟩
  · rw [longer]
    simp only [Exchange.addRecorder, Shelf.get?_put] at hr
    split at hr
    · rw [← Option.some.inj hr]
      exact Nat.lt_succ_self _
    · exact Nat.lt_succ_of_lt (h.named other r hr)
  · rw [longer]
    have before : w.box role b = some r := by
      cases role <;> exact hr
    exact Nat.lt_succ_of_lt (h.boxes role b r before)
  · have same : (w.addRecorder label).taken role r = w.taken role r := by
      funext o
      cases role <;> rfl
    have all : (w.addRecorder label).history.filterMap ((w.addRecorder label).taken role r) =
        w.history.filterMap (w.taken role r) := by
      rw [same]
      rfl
    rw [all]
    rcases Nat.lt_or_ge r w.recorders.length with below | above
    · rw [Exchange.kept, Exchange.addRecorder, List.getElem?_append_left below]
      exact h.kept role r below he
    · have last : r = w.recorders.length := by
        rw [longer] at hr
        omega
      -- Only a recorder that serves a bus is handed records, and the new one serves none yet.
      have never : w.history.filterMap (w.taken role r) = [] := by
        refine List.filterMap_eq_nil_iff.mpr fun o ho => ?_
        rw [taken, Option.filter_eq_none_iff]
        intro x hx serves
        have there := h.boxes role _ r (of_decide_eq_true serves)
        rw [last] at there
        exact Nat.lt_irrefl _ there
      rw [never, last]
      rw [Exchange.kept, Exchange.addRecorder, List.getElem?_concat_length]
      cases role <;> rfl

theorem Tallied.addBus {w : Exchange} (h : w.Tallied) {deadLetters failures : Sink}
    (hd : w.Shows deadLetters) (hf : w.Shows failures) :
    (w.addBus deadLetters failures).1.Tallied := by
  have before (role : SinkRole) (b : BusId) (hb : b < w.buses.length) :
      (w.addBus deadLetters failures).1.box role b = w.box role b := by
    cases role <;> simp [box, returnedBox, failedBox, Exchange.addBus, List.getElem?_append_left hb]
  have shown {sink : Sink} (hs : w.Shows sink) {r : RecorderId} (hr : sink.recorder? = some r) :
      r < w.recorders.length := by
    obtain ⟨label, named⟩ := hs r hr
    exact h.named label r named
  refine ⟨h.named, fun role b r hr => ?_, fun role o ho x hx => ?_, fun role r hr he => ?_⟩
  · rcases Nat.lt_trichotomy b w.buses.length with below | rfl | above
    · exact h.boxes role b r (before role b below ▸ hr)
    · cases role with
      | deadLetter => exact shown hd (by simpa [box, returnedBox, Exchange.addBus] using hr)
      | failure => exact shown hf (by simpa [box, failedBox, Exchange.addBus] using hr)
    · have nothing : (w.addBus deadLetters failures).1.buses[b]? = none := by
        apply List.getElem?_eq_none
        simp only [Exchange.addBus, List.length_append, List.length_singleton]
        omega
      cases role <;> simp [box, returnedBox, failedBox, nothing] at hr
  · have old := h.buses role o ho x hx
    simp only [Exchange.addBus, List.length_append]
    exact Nat.lt_add_right _ old
  · have all : w.history.filterMap ((w.addBus deadLetters failures).1.taken role r) =
        w.history.filterMap (w.taken role r) := by
      refine List.filterMap_congr fun o ho => ?_
      rw [taken, taken]
      cases hx : o.handed? role with
      | none => rfl
      | some x => simp only [Option.filter, before role _ (h.buses role o ho x hx)]
    exact (h.kept role r hr he).trans (congrArg some all.symm)

/-- A tray that is emptied or broken is no longer spoken of. -/
theorem Tallied.emptied {w : Exchange} (h : w.Tallied) (r : RecorderId) (role : SinkRole)
    {f : Recorder → Recorder} (hf : ∀ c other, other ≠ role → (f c).kept other = c.kept other) :
    ((w.modifyRecorder r f).record (.emptied r role)).Tallied := by
  have none_taken (other : SinkRole) (s : RecorderId) :
      [Occurrence.emptied r role].filterMap (w.taken other s) = [] := by
    simp [taken, Occurrence.handed?]
  have advance :
      Advance w ((w.modifyRecorder r f).record (.emptied r role)) [.emptied r role] := by
    refine ⟨rfl, by simp [Exchange.modifyRecorder, Exchange.record], rfl, rfl,
      history_record _ _, by simp [Occurrence.handed?], fun other s he => ?_⟩
    have same : (w.modifyRecorder r f).kept s other = w.kept s other := by
      rw [kept_modifyRecorder]
      split
      · next e =>
        have ne : other ≠ role := fun e' => he (by simp [e, e'])
        simp only [hf _ other ne, e]
        rfl
      · rfl
    rw [none_taken]
    exact same.trans (by simp)
  exact h.advance advance

/-- A record is one more in the tray of the recorder that it is handed to, if there is one. -/
theorem Tallied.handed {w v : Exchange} (h : w.Tallied) {o : Occurrence} (role : SinkRole)
    {x : role.Record} (ho : o.handed? role = some x)
    (others : ∀ other ≠ role, o.handed? other = none) (hb : role.busOf x < w.buses.length)
    (hv : w.box role (role.busOf x) = none ∧ v = w.record o ∨
      ∃ r f, w.box role (role.busOf x) = some r ∧ v = (w.record o).modifyRecorder r f ∧
        (∀ c, (f c).kept role = (c.kept role).map (· ++ [x])) ∧
        ∀ c, ∀ other ≠ role, (f c).kept other = c.kept other) :
    v.Tallied := by
  have mine (s : RecorderId) : [o].filterMap (w.taken role s) =
      if w.box role (role.busOf x) = some s then [x] else [] := by
    have one : w.taken role s o = if w.box role (role.busOf x) = some s then some x else none := by
      simp only [taken, ho, Option.filter, decide_eq_true_eq]
    by_cases served : w.box role (role.busOf x) = some s
    · rw [if_pos served] at one ⊢
      rw [List.filterMap_cons_some one, List.filterMap_nil]
    · rw [if_neg served] at one ⊢
      rw [List.filterMap_cons_none one, List.filterMap_nil]
  have none_else (other : SinkRole) (ne : other ≠ role) (s : RecorderId) :
      [o].filterMap (w.taken other s) = [] := by
    simp [taken, others other ne]
  have there : ∀ other, ∀ y ∈ [o], ∀ z ∈ y.handed? other, other.busOf z < w.buses.length := by
    intro other y hy z hz
    rw [List.mem_singleton.mp hy] at hz
    by_cases e : other = role
    · subst e
      rw [ho] at hz
      exact Option.some.inj hz ▸ hb
    · rw [others other e] at hz
      simp at hz
  rcases hv with ⟨unserved, rfl⟩ | ⟨r, f, served, rfl, adds, leaves⟩
  · refine h.advance ⟨rfl, rfl, rfl, rfl, history_record w o, there, fun other s _ => ?_⟩
    have nothing : [o].filterMap (w.taken other s) = [] := by
      by_cases e : other = role
      · subst e
        rw [mine, unserved]
        rfl
      · exact none_else other e s
    rw [nothing]
    simp only [List.append_nil, Option.map_id']
    rfl
  · refine h.advance ⟨rfl, by simp [Exchange.modifyRecorder, Exchange.record], rfl, rfl,
      history_record w o, there, fun other s _ => ?_⟩
    rw [kept_modifyRecorder]
    by_cases e : other = role
    · subst e
      rw [mine, served]
      by_cases es : s = r
      · subst es
        simp only [if_true, adds, Exchange.kept, Exchange.record]
        cases w.recorders[s]? <;> rfl
      · rw [if_neg es, if_neg fun same => es (Option.some.inj same).symm]
        simp only [List.append_nil, Option.map_id']
        rfl
    · rw [none_else other e s]
      simp only [leaves _ other e, List.append_nil, Option.map_id']
      split
      · next es =>
        rw [es]
        rfl
      · rfl

theorem Tallied.returned {w : Exchange} (h : w.Tallied) (d : Dispatch) (x : ReturnedMessage)
    (hx : x.bus < w.buses.length) : ((w.record (.returned d x)).keepReturned x).Tallied := by
  have others : ∀ other ≠ .deadLetter, (Occurrence.returned d x).handed? other = none := by
    intro other ne
    cases other with
    | deadLetter => exact absurd rfl ne
    | failure => rfl
  refine h.handed .deadLetter rfl others hx ?_
  rw [keepReturned]
  cases e : (w.record (.returned d x)).returnedBox x.bus with
  | none => exact .inl ⟨e, rfl⟩
  | some r =>
    refine .inr ⟨r, _, e, rfl, fun c => Tray.kept_add c.returned x, fun c other ne => ?_⟩
    cases other with
    | deadLetter => exact absurd rfl ne
    | failure => rfl

theorem Tallied.failed {w : Exchange} (h : w.Tallied) (d : Dispatch) (x : FailedMessage)
    (hx : x.bus < w.buses.length) : ((w.record (.failed d x)).keepFailed x).Tallied := by
  have others : ∀ other ≠ .failure, (Occurrence.failed d x).handed? other = none := by
    intro other ne
    cases other with
    | deadLetter => rfl
    | failure => exact absurd rfl ne
  refine h.handed .failure rfl others hx ?_
  rw [keepFailed]
  cases e : (w.record (.failed d x)).failedBox x.bus with
  | none => exact .inl ⟨e, rfl⟩
  | some r =>
    refine .inr ⟨r, _, e, rfl, fun c => Tray.kept_add c.failed x, fun c other ne => ?_⟩
    cases other with
    | deadLetter => rfl
    | failure => exact absurd rfl ne

theorem Tallied.strike {w : Exchange} (h : w.Tallied) (x : Ref) : (w.strike x).Tallied := by
  have dropped (role : SinkRole) : (Occurrence.dropped x).handed? role = none := by
    simp [Occurrence.handed?]
  cases x with
  | mailbox m =>
    have struck : (w.modifyMailbox m fun c => { c with alive := false }).Tallied :=
      h.still rfl rfl rfl rfl
    exact struck.record _ dropped
  | bus b =>
    exact (h.modifyBus b (fun c => { c with alive := false }) fun _ => rfl).record _ dropped
  | recorder r =>
    have same (c : Recorder) (role : SinkRole) :
        ({ c with alive := false } : Recorder).kept role = c.kept role := by
      cases role <;> rfl
    exact (h.modifyRecorder r (fun c => { c with alive := false }) same).record _ dropped

theorem Move.tallied {w v : Exchange} (step : Move w v) (h : w.Tallied) : v.Tallied := by
  have logged (u : Exchange) (hu : u.Tallied) (e : Log.Event) : (u.log e).Tallied :=
    (hu.still rfl rfl rfl rfl : { u with book := u.book.note e }.Tallied).record (.logged e)
      (by simp [Occurrence.handed?])
  cases step with
  | desk desk hd => exact h.still hd rfl rfl rfl
  | held | journals | mailbox | called => exact h.still rfl rfl rfl rfl
  | logged e => exact logged w h e
  | announced a => exact h.record _ (by simp [Occurrence.handed?])
  | recorder label => exact h.addRecorder label
  | bus deadLetters failures hd hf => exact h.addBus hd hf
  | struck x => exact h.strike x
  | resolved b m =>
    cases hb : w.buses[b]? with
    | none =>
      rw [resolve_none hb]
      exact h
    | some cell =>
      obtain ⟨u, hu, e⟩ := resolve_some hb m
      have told : u.Tallied := by
        rcases hu with rfl | ⟨line, rfl⟩
        · exact h
        · exact logged w h line
      rw [e]
      exact told.modifyBus b _ fun _ => rfl
  | subscribed b cell m =>
    have changed := h.modifyBus b (fun c => { c with registry := (cell.registry.subscribe m).1 })
      fun _ => rfl
    have made := changed.record
      (.subscribed b { seq := (cell.registry.subscribe m).2, mailbox := m })
      (by simp [Occurrence.handed?])
    exact logged _ made _
  | unsubscribed b cell m registry =>
    exact (h.modifyBus b (fun c => { c with registry }) fun _ => rfl).record _
      (by simp [Occurrence.handed?])
  | cleared b cell =>
    exact (h.modifyBus b (fun c => { c with registry := cell.registry.clear.1 })
      fun _ => rfl).record
      _ (by simp [Occurrence.handed?])
  | returnedCalled b =>
    exact h.modifyBus b (fun c => { c with deadLetterCalls := c.deadLetterCalls + 1 }) fun _ => rfl
  | failedCalled b =>
    exact h.modifyBus b (fun c => { c with failureCalls := c.failureCalls + 1 }) fun _ => rfl
  | emptied r role =>
    refine h.emptied r role fun c other ne => ?_
    cases role <;> cases other
    · exact absurd rfl ne
    · rfl
    · rfl
    · exact absurd rfl ne
  | broken r role =>
    refine h.emptied r role fun c other ne => ?_
    cases role <;> cases other
    · exact absurd rfl ne
    · rfl
    · rfl
    · exact absurd rfl ne

theorem Mark.tallied {w v : Exchange} (step : Mark w v) (h : w.Tallied) : v.Tallied := by
  cases step with
  | begun b m =>
    have counted : Tallied { w with dispatches := w.dispatches + 1 } := h.still rfl rfl rfl rfl
    exact counted.record _ (by simp [Occurrence.handed?])
  | invoked | answered | heard | released | concluded =>
    exact h.record _ (by simp [Occurrence.handed?])
  | returned d x hx => exact h.returned d x hx
  | failed d x hx => exact h.failed d x hx

theorem Reachable.tallied {w : Exchange} (h : w.Reachable) : w.Tallied := by
  induction h with
  | refl =>
    refine ⟨by simp [Shelf.get?], fun role b r hr => ?_, by simp [history], by simp⟩
    cases role <;> simp [box, returnedBox, failedBox] at hr
  | tail _ step ih => exact step.elim (·.tallied ih) (·.tallied ih)

end Exchange

end MessageBus
