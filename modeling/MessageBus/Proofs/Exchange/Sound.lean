import MessageBus.Proofs.Exchange.Reach
import MessageBus.Proofs.Registry.Roll

namespace MessageBus

/-- What an occurrence makes of the live subscriptions of a bus. -/
def Occurrence.amend (b : BusId) (S : Roll) : Occurrence → Roll
  | .subscribed c s => if c = b then S ++ [s] else S
  | .unsubscribed c m => if c = b then S.without m.id else S
  | .cleared c => if c = b then [] else S
  | _ => S

/-- The live subscriptions of a bus after a history, in the order in which they were made. -/
def live (b : BusId) (history : List Occurrence) : Roll := history.foldl (Occurrence.amend b) []

/-- The number of a subscription that an occurrence makes on a bus. -/
def Occurrence.seq? (b : BusId) : Occurrence → Option Nat
  | .subscribed c s => if c = b then some s.seq else none
  | _ => none

/-- The numbers of the subscriptions ever made on a bus. -/
def numbers (b : BusId) (history : List Occurrence) : List Nat :=
  history.filterMap (Occurrence.seq? b)

/-- An occurrence that neither makes nor ends subscriptions nor begins a dispatch. -/
def Occurrence.Aside : Occurrence → Prop
  | .subscribed .. | .unsubscribed .. | .cleared .. | .published .. => False
  | _ => True

theorem live_append (b : BusId) (h h' : List Occurrence) :
    live b (h ++ h') = h'.foldl (Occurrence.amend b) (live b h) := by
  simp [live]

theorem numbers_append (b : BusId) (h h' : List Occurrence) :
    numbers b (h ++ h') = numbers b h ++ numbers b h' := by
  simp [numbers]

namespace Exchange

/-- A bus fits a history when its registry lists the subscriptions that are live by it and has
numbered all that were ever made, and every chain that it keeps is the one of its type. -/
structure Fits (cell : BusCell) (b : BusId) (h : List Occurrence) : Prop where
  lists : cell.registry.Lists (live b h)
  numbers : numbers b h = List.range cell.registry.nextSeq
  chains : cell.resolver.Sound

/-- What holds of every exchange that comes about: its buses fit its history, the chain of a message
is kept once its dispatch has begun, and mailboxes are known by their identity. -/
structure Sound (w : Exchange) : Prop where
  fits : ∀ b cell, w.buses[b]? = some cell → Fits cell b w.history
  unopened : ∀ b, w.buses[b]? = none → live b w.history = [] ∧ numbers b w.history = []
  kept : ∀ d plan, .published d plan ∈ w.history → ∃ (cell : BusCell) (c : Chain),
    w.buses[d.bus]? = some cell ∧ cell.resolver.find? d.message.tag = some c
  mailboxes : ∀ (i : Nat) (m : Mailbox), (w.mailboxes.map (·.mailbox))[i]? = some m → m.id = i
  known : ∀ b, ∀ s ∈ live b w.history, s.mailbox ∈ w.mailboxes.map (·.mailbox)

/-- A change that leaves registries, resolvers and the identities of mailboxes alone. -/
structure Quiet (w v : Exchange) : Prop where
  buses : v.buses.map (fun c => (c.registry, c.resolver)) =
    w.buses.map fun c => (c.registry, c.resolver)
  mailboxes : v.mailboxes.map (·.mailbox) = w.mailboxes.map (·.mailbox)
  history : ∃ new, v.history = w.history ++ new ∧ ∀ o ∈ new, o.Aside

/-- Occurrences that make nothing of the subscriptions leave them as they are together. -/
theorem foldl_amend_of_still {b : BusId} {new : List Occurrence}
    (still : ∀ o ∈ new, ∀ S : Roll, o.amend b S = S) (S : Roll) :
    new.foldl (Occurrence.amend b) S = S := by
  induction new generalizing S with
  | nil => rfl
  | cons o new ih =>
    rw [List.foldl_cons, still o List.mem_cons_self]
    exact ih (fun o ho => still o (List.mem_cons_of_mem _ ho)) S

theorem foldl_amend_of_aside {b : BusId} {new : List Occurrence} (h : ∀ o ∈ new, o.Aside)
    (S : Roll) : new.foldl (Occurrence.amend b) S = S := by
  refine foldl_amend_of_still (fun o ho S => ?_) S
  have aside := h o ho
  cases o with
  | subscribed | unsubscribed | cleared => exact aside.elim
  | _ => rfl

theorem numbers_of_aside {b : BusId} {new : List Occurrence} (h : ∀ o ∈ new, o.Aside) :
    numbers b new = [] := by
  rw [numbers, List.filterMap_eq_nil_iff]
  intro o ho
  have aside := h o ho
  cases o with
  | subscribed => exact aside.elim
  | _ => rfl

theorem Quiet.live_eq {w v : Exchange} (q : Quiet w v) (b : BusId) :
    live b v.history = live b w.history := by
  obtain ⟨new, hist, aside⟩ := q.history
  rw [hist, live_append, foldl_amend_of_aside aside]

theorem Quiet.numbers_eq {w v : Exchange} (q : Quiet w v) (b : BusId) :
    numbers b v.history = numbers b w.history := by
  obtain ⟨new, hist, aside⟩ := q.history
  rw [hist, numbers_append, numbers_of_aside aside, List.append_nil]

theorem Quiet.getElem? {w v : Exchange} (q : Quiet w v) (b : BusId) :
    (v.buses[b]?).map (fun c => (c.registry, c.resolver)) =
      (w.buses[b]?).map fun c => (c.registry, c.resolver) := by
  simpa only [List.getElem?_map] using congrArg (·[b]?) q.buses

theorem Sound.quiet {w v : Exchange} (h : w.Sound) (q : Quiet w v) : v.Sound := by
  refine ⟨fun b cell hb => ?_, fun b hb => ?_, fun d plan hd => ?_, ?_, fun b s hs => ?_⟩
  · have same := q.getElem? b
    rw [hb] at same
    obtain ⟨old, ho, e⟩ := Option.map_eq_some_iff.mp same.symm
    obtain ⟨lists, seq, chains⟩ := h.fits b old ho
    obtain ⟨registry, resolver⟩ := Prod.mk.inj e
    exact ⟨by rwa [q.live_eq, ← registry], by rwa [q.numbers_eq, ← registry], by rwa [← resolver]⟩
  · have gone := q.getElem? b
    rw [hb] at gone
    rw [q.live_eq, q.numbers_eq]
    exact h.unopened b (Option.map_eq_none_iff.mp gone.symm)
  · obtain ⟨new, hist, aside⟩ := q.history
    rw [hist, List.mem_append] at hd
    obtain ⟨old, c, ho, hc⟩ := h.kept d plan (hd.resolve_right fun hn => aside _ hn)
    have same := q.getElem? d.bus
    rw [ho] at same
    obtain ⟨cell, hb, e⟩ := Option.map_eq_some_iff.mp same
    exact ⟨cell, c, hb, (Prod.mk.inj e).2 ▸ hc⟩
  · rw [q.mailboxes]
    exact h.mailboxes
  · rw [q.mailboxes]
    exact h.known b s (q.live_eq b ▸ hs)

theorem Quiet.refl (w : Exchange) : Quiet w w := ⟨rfl, rfl, [], by simp, by simp⟩

theorem Quiet.record {w v : Exchange} (q : Quiet w v) (o : Occurrence) (h : o.Aside) :
    Quiet w (v.record o) := by
  obtain ⟨new, hist, aside⟩ := q.history
  refine ⟨q.buses, q.mailboxes, new ++ [o], by simp [hist], fun x hx => ?_⟩
  rcases List.mem_append.mp hx with hx | hx
  · exact aside x hx
  · rwa [List.mem_singleton.mp hx]

theorem Quiet.of_still {w v : Exchange}
    (hb : v.buses.map (fun c => (c.registry, c.resolver)) =
      w.buses.map fun c => (c.registry, c.resolver))
    (hm : v.mailboxes.map (·.mailbox) = w.mailboxes.map (·.mailbox)) (ht : v.trace = w.trace) :
    Quiet w v :=
  ⟨hb, hm, [], by simp [Exchange.history, ht], by simp⟩

theorem Quiet.log (w : Exchange) (e : Log.Event) : Quiet w (w.log e) :=
  (of_still rfl rfl rfl : Quiet w { w with book := w.book.note e }).record (.logged e) trivial

theorem Quiet.modifyBus (w : Exchange) (b : BusId) (f : BusCell → BusCell)
    (h : ∀ c, ((f c).registry, (f c).resolver) = (c.registry, c.resolver)) :
    Quiet w (w.modifyBus b f) :=
  .of_still (map_modify_of_still _ f h b w.buses) rfl rfl

theorem Quiet.modifyMailbox (w : Exchange) (m : MailboxId) (f : MailboxCell → MailboxCell)
    (h : ∀ c, (f c).mailbox = c.mailbox) : Quiet w (w.modifyMailbox m f) :=
  .of_still rfl (map_modify_of_still _ f h m w.mailboxes) rfl

theorem Quiet.modifyRecorder (w : Exchange) (r : RecorderId) (f : Recorder → Recorder) :
    Quiet w (w.modifyRecorder r f) :=
  .of_still rfl rfl rfl

/-- A change of one bus keeps the exchange sound when the bus fits what happened and nothing of it
concerns another bus. -/
theorem Sound.amended {w v : Exchange} (h : w.Sound) {b : BusId} {cell cell' : BusCell}
    {new : List Occurrence} (hb : w.buses[b]? = some cell) (hb' : v.buses[b]? = some cell')
    (others : ∀ c ≠ b, v.buses[c]? = w.buses[c]?) (hm : v.mailboxes = w.mailboxes)
    (hist : v.history = w.history ++ new)
    (apart : ∀ c ≠ b, (∀ S, new.foldl (Occurrence.amend c) S = S) ∧ numbers c new = [])
    (unbegun : ∀ d plan, .published d plan ∉ new) (fits : Fits cell' b v.history)
    (kept : ∀ t c, cell.resolver.find? t = some c → ∃ c', cell'.resolver.find? t = some c')
    (known : ∀ s ∈ live b v.history, s.mailbox ∈ w.mailboxes.map (·.mailbox)) : v.Sound := by
  have same (c : BusId) (hc : c ≠ b) :
      live c v.history = live c w.history ∧ numbers c v.history = numbers c w.history := by
    obtain ⟨still, none_new⟩ := apart c hc
    rw [hist, live_append, still, numbers_append, none_new, List.append_nil]
    exact ⟨rfl, rfl⟩
  refine ⟨fun c other hc => ?_, fun c hc => ?_, fun d plan hd => ?_, ?_, fun c s hs => ?_⟩
  · by_cases e : c = b
    · rw [e] at hc ⊢
      rw [← Option.some.inj (hb'.symm.trans hc)]
      exact fits
    · obtain ⟨lists, seq, chains⟩ := h.fits c other (others c e ▸ hc)
      exact ⟨by rwa [(same c e).1], by rwa [(same c e).2], chains⟩
  · by_cases e : c = b
    · rw [e, hb'] at hc
      simp at hc
    · rw [(same c e).1, (same c e).2]
      exact h.unopened c (others c e ▸ hc)
  · rw [hist, List.mem_append] at hd
    obtain ⟨old, c, ho, hc⟩ := h.kept d plan (hd.resolve_right (unbegun d plan))
    by_cases e : d.bus = b
    · rw [e, hb] at ho
      obtain ⟨c', hc'⟩ := kept _ c (Option.some.inj ho ▸ hc)
      exact ⟨cell', c', e ▸ hb', hc'⟩
    · exact ⟨old, c, (others _ e).trans ho, hc⟩
  · rw [hm]
    exact h.mailboxes
  · rw [hm]
    by_cases e : c = b
    · exact known s (e ▸ hs)
    · exact h.known c s ((same c e).1 ▸ hs)

theorem getElem?_modifyBus {w : Exchange} {b : BusId} {cell : BusCell} (f : BusCell → BusCell)
    (hb : w.buses[b]? = some cell) : (w.modifyBus b f).buses[b]? = some (f cell) ∧
      ∀ c ≠ b, (w.modifyBus b f).buses[c]? = w.buses[c]? := by
  refine ⟨by simp [modifyBus, hb], fun c hc => ?_⟩
  rw [modifyBus, List.getElem?_modify_ne]
  exact hc.symm

/-- Mailboxes of one identity are the same. -/
theorem Sound.eq_of_id {w : Exchange} (h : w.Sound) {m m' : Mailbox}
    (hm : m ∈ w.mailboxes.map (·.mailbox)) (hm' : m' ∈ w.mailboxes.map (·.mailbox))
    (e : m.id = m'.id) : m = m' := by
  obtain ⟨i, hi⟩ := List.mem_iff_getElem?.mp hm
  obtain ⟨j, hj⟩ := List.mem_iff_getElem?.mp hm'
  have ij : i = j := by rw [← h.mailboxes i m hi, ← h.mailboxes j m' hj, e]
  exact Option.some.inj (hi.symm.trans (ij ▸ hj))

theorem Sound.subscribed {w : Exchange} (h : w.Sound) {b : BusId} {cell : BusCell} {m : Mailbox}
    (hb : w.buses[b]? = some cell) (hm : m ∈ w.mailboxes.map (·.mailbox)) :
    (subscribeMailbox b cell m w).1.Sound := by
  let s : Subscription := { seq := cell.registry.nextSeq, mailbox := m }
  obtain ⟨at_b, others⟩ := getElem?_modifyBus
    (fun c => { c with registry := (cell.registry.subscribe m).1 }) hb
  obtain ⟨lists, seq, chains⟩ := h.fits b cell hb
  have hist : (subscribeMailbox b cell m w).1.history =
      w.history ++ [.subscribed b s, .logged (.subscribed m s.seq)] := by
    simp [subscribeMailbox, modifyBus, record, log, history, s, Registry.subscribe,
      Registry.takeSeq]
  have now : live b (subscribeMailbox b cell m w).1.history = live b w.history ++ [s] := by
    simp [hist, live_append, Occurrence.amend]
  refine h.amended hb at_b others rfl hist (fun c hc => ?_) (by simp) ⟨?_, ?_, chains⟩
    (fun t c hc => ⟨c, hc⟩) fun x hx => ?_
  · simp [Occurrence.amend, numbers, Occurrence.seq?, hc.symm]
  · rw [now]
    exact lists.subscribe m
  · rw [hist, numbers_append, seq]
    simp [numbers, Occurrence.seq?, s, Registry.subscribe, Registry.takeSeq, Registry.append,
      List.range_succ]
  · rw [now, List.mem_append, List.mem_singleton] at hx
    rcases hx with hx | rfl
    · exact h.known b x hx
    · exact hm

theorem Sound.unsubscribed {w : Exchange} (h : w.Sound) {b : BusId} {cell : BusCell} {m : Mailbox}
    {registry : Registry} {s : Subscription} (hb : w.buses[b]? = some cell)
    (hm : m ∈ w.mailboxes.map (·.mailbox)) (hu : cell.registry.unsubscribe m = .ok (registry, s)) :
    ((w.modifyBus b fun c => { c with registry }).record (.unsubscribed b m)).Sound := by
  obtain ⟨at_b, others⟩ := getElem?_modifyBus (fun c => { c with registry }) hb
  obtain ⟨lists, seq, chains⟩ := h.fits b cell hb
  -- Identities are never used twice, so the mailbox was subscribed to no type but its own.
  have one_tag : ∀ x ∈ live b w.history, x.mailbox.id = m.id → x.mailbox.tag = m.tag := by
    intro x hx e
    rw [h.eq_of_id (h.known b x hx) hm e]
  have hist : ((w.modifyBus b fun c => { c with registry }).record (.unsubscribed b m)).history =
      w.history ++ [.unsubscribed b m] := history_record _ _
  have now : live b ((w.modifyBus b fun c => { c with registry }).record
      (.unsubscribed b m)).history = (live b w.history).without m.id := by
    simp [hist, live_append, Occurrence.amend]
  obtain ⟨left, next⟩ : registry.Lists ((live b w.history).without m.id) ∧
      registry.nextSeq = cell.registry.nextSeq := by
    cases hs : (live b w.history).find? (·.mailbox.id = m.id) with
    | none =>
      rw [lists.unsubscribe_none m one_tag hs] at hu
      simp at hu
    | some x =>
      obtain ⟨r, e, lists, next⟩ := lists.unsubscribe_some m one_tag hs
      rw [e] at hu
      have e : r = registry := congrArg Prod.fst (Except.ok.inj hu)
      exact e ▸ ⟨lists, next⟩
  refine h.amended hb at_b others rfl hist (fun c hc => ?_) (by simp) ⟨?_, ?_, chains⟩
    (fun t c hc => ⟨c, hc⟩) fun x hx => ?_
  · simp [Occurrence.amend, numbers, Occurrence.seq?, hc.symm]
  · rw [now]
    exact left
  · rw [hist, numbers_append, seq, next]
    simp [numbers, Occurrence.seq?]
  · rw [now] at hx
    exact h.known b x (Roll.mem_of_mem_without hx)

theorem Sound.cleared {w : Exchange} (h : w.Sound) {b : BusId} {cell : BusCell}
    (hb : w.buses[b]? = some cell) :
    ((w.modifyBus b fun c => { c with registry := cell.registry.clear.1 }).record
      (.cleared b)).Sound := by
  obtain ⟨at_b, others⟩ := getElem?_modifyBus
    (fun c => { c with registry := cell.registry.clear.1 }) hb
  obtain ⟨lists, seq, chains⟩ := h.fits b cell hb
  have hist : ((w.modifyBus b fun c => { c with registry := cell.registry.clear.1 }).record
      (.cleared b)).history = w.history ++ [.cleared b] := history_record _ _
  have now : live b ((w.modifyBus b fun c => { c with registry := cell.registry.clear.1 }).record
      (.cleared b)).history = [] := by
    simp [hist, live_append, Occurrence.amend]
  refine h.amended hb at_b others rfl hist (fun c hc => ?_) (by simp) ⟨?_, ?_, chains⟩
    (fun t c hc => ⟨c, hc⟩) fun x hx => ?_
  · simp [Occurrence.amend, numbers, Occurrence.seq?, hc.symm]
  · rw [now]
    exact Registry.lists_clear cell.registry
  · rw [hist, numbers_append, seq]
    simp [numbers, Occurrence.seq?, Registry.clear]
  · rw [now] at hx
    exact absurd hx List.not_mem_nil

theorem Sound.resolved {w : Exchange} (h : w.Sound) (b : BusId) (m : Message) :
    (w.resolve b m).1.Sound := by
  cases hb : w.buses[b]? with
  | none =>
    rw [resolve_none hb]
    exact h
  | some cell =>
    obtain ⟨u, hu, e⟩ := resolve_some hb m
    have logged : u.Sound := by
      rcases hu with rfl | ⟨line, rfl⟩
      · exact h
      · exact h.quiet (.log w line)
    have ub : u.buses[b]? = some cell := by
      rcases hu with rfl | ⟨_, rfl⟩ <;> exact hb
    obtain ⟨at_b, others⟩ := getElem?_modifyBus
      (fun c => { c with resolver := (cell.resolver.resolve m).1 }) ub
    obtain ⟨lists, seq, chains⟩ := logged.fits b cell ub
    have hist : (u.modifyBus b fun c =>
        { c with resolver := (cell.resolver.resolve m).1 }).history = u.history ++ [] :=
      (List.append_nil _).symm
    rw [e]
    refine logged.amended ub at_b others rfl hist (fun c hc => ⟨fun S => rfl, rfl⟩) (by simp)
      ⟨lists, seq, chains.resolve m⟩ (fun t c hc => ?_) (logged.known b)
    simp only [Resolver.find?_resolve]
    split
    · exact ⟨_, rfl⟩
    · exact ⟨c, hc⟩

theorem Sound.begun {w : Exchange} (h : w.Sound) {b : BusId} {m : Message} {cell : BusCell}
    {c : Chain} (hb : w.buses[b]? = some cell) (hc : cell.resolver.find? m.tag = some c)
    (routes : List Route) : (w.beginDispatch (w.nextDispatch b m) routes).Sound := by
  let d := w.nextDispatch b m
  have hist : (w.beginDispatch d routes).history =
      w.history ++ [.published d (Route.plan routes)] := by
    simp [beginDispatch, record, history]
  have same (a : BusId) : live a (w.beginDispatch d routes).history = live a w.history ∧
      numbers a (w.beginDispatch d routes).history = numbers a w.history := by
    rw [hist, live_append, numbers_append]
    exact ⟨rfl, List.append_nil _⟩
  refine ⟨fun a other ha => ?_, fun a ha => ?_, fun d' plan hd => ?_, h.mailboxes, fun a s hs => ?_⟩
  · obtain ⟨lists, seq, chains⟩ := h.fits a other ha
    exact ⟨by rwa [(same a).1], by rwa [(same a).2], chains⟩
  · rw [(same a).1, (same a).2]
    exact h.unopened a ha
  · rw [hist, List.mem_append, List.mem_singleton, Occurrence.published.injEq] at hd
    rcases hd with hd | ⟨rfl, -⟩
    · exact h.kept d' plan hd
    · exact ⟨cell, c, hb, hc⟩
  · rw [(same a).1] at hs
    exact h.known a s hs

/-- A new bus has no subscriptions and has had none. -/
theorem Sound.added {w : Exchange} (h : w.Sound) (deadLetters failures : Sink) :
    (w.addBus deadLetters failures).1.Sound := by
  refine ⟨fun b cell hb => ?_, fun b hb => ?_, fun d plan hd => ?_, h.mailboxes, h.known⟩
  · rcases Nat.lt_or_ge b w.buses.length with below | above
    · exact h.fits b cell ((List.getElem?_append_left below).symm.trans hb)
    · obtain ⟨lists, seq⟩ := h.unopened b (List.getElem?_eq_none above)
      rw [addBus, List.getElem?_append_right above, List.getElem?_singleton] at hb
      split at hb
      · rw [← Option.some.inj hb]
        refine ⟨?_, ?_, Resolver.sound_empty⟩
        · exact lists ▸ Registry.lists_empty
        · exact seq
      · simp at hb
  · simp only [addBus, List.getElem?_eq_none_iff, List.length_append] at hb
    exact h.unopened b (List.getElem?_eq_none (by omega))
  · obtain ⟨cell, c, hb, hc⟩ := h.kept d plan hd
    exact ⟨cell, c, List.getElem?_append_left (List.getElem?_eq_some_iff.mp hb).1 ▸ hb, hc⟩

theorem Sound.mailbox {w : Exchange} (h : w.Sound) {cell : MailboxCell}
    (hid : cell.mailbox.id = w.mailboxes.length) :
    Sound { w with mailboxes := w.mailboxes ++ [cell] } := by
  refine ⟨h.fits, h.unopened, h.kept, fun i m hm => ?_, fun b s hs => ?_⟩
  · rw [List.map_append] at hm
    rcases Nat.lt_or_ge i (w.mailboxes.map (·.mailbox)).length with below | above
    · exact h.mailboxes i m ((List.getElem?_append_left below).symm.trans hm)
    · rw [List.getElem?_append_right above, List.map_singleton, List.getElem?_singleton] at hm
      split at hm
      · next first =>
        rw [List.length_map] at above first
        rw [← Option.some.inj hm, hid]
        exact Nat.le_antisymm above (Nat.sub_eq_zero_iff_le.mp first)
      · simp at hm
  · rw [List.map_append]
    exact List.mem_append_left _ (h.known b s hs)

theorem Quiet.strike (w : Exchange) (x : Ref) : Quiet w (w.strike x) := by
  cases x with
  | mailbox m =>
    exact (Quiet.modifyMailbox w m (fun c => { c with alive := false }) fun _ => rfl).record
      (.dropped (.mailbox m)) trivial
  | bus b =>
    exact (Quiet.modifyBus w b (fun c => { c with alive := false }) fun _ => rfl).record
      (.dropped (.bus b)) trivial
  | recorder r =>
    exact (Quiet.modifyRecorder w r fun c => { c with alive := false }).record
      (.dropped (.recorder r)) trivial

theorem Quiet.keepReturned (w : Exchange) (x : ReturnedMessage) : Quiet w (w.keepReturned x) := by
  rw [Exchange.keepReturned]
  split <;> exact .of_still rfl rfl rfl

theorem Quiet.keepFailed (w : Exchange) (x : FailedMessage) : Quiet w (w.keepFailed x) := by
  rw [Exchange.keepFailed]
  split <;> exact .of_still rfl rfl rfl

theorem Move.sound {w v : Exchange} (step : Move w v) (h : w.Sound) : v.Sound := by
  cases step with
  | desk | held | journals | recorder => exact h.quiet (.of_still rfl rfl rfl)
  | logged e => exact h.quiet (.log w e)
  | announced a => exact h.quiet ((Quiet.refl w).record (.announced a) trivial)
  | bus deadLetters failures => exact h.added deadLetters failures
  | mailbox cell hid => exact h.mailbox hid
  | called m => exact h.quiet (.modifyMailbox w m _ fun _ => rfl)
  | struck x => exact h.quiet (.strike w x)
  | resolved b m => exact h.resolved b m
  | subscribed b cell m hb hm => exact h.subscribed hb hm
  | unsubscribed b cell m registry s hb hm hu => exact h.unsubscribed hb hm hu
  | cleared b cell hb => exact h.cleared hb
  | returnedCalled b | failedCalled b => exact h.quiet (.modifyBus w b _ fun _ => rfl)
  | emptied r role =>
    exact h.quiet ((Quiet.modifyRecorder w r (·.emptied role)).record (.emptied r role) trivial)
  | broken r role =>
    exact h.quiet ((Quiet.modifyRecorder w r (·.broken role)).record (.emptied r role) trivial)

theorem Mark.sound {w v : Exchange} (step : Mark w v) (h : w.Sound) : v.Sound := by
  cases step with
  | begun b m cell c hb hc => exact h.begun hb hc _
  | invoked d s => exact h.quiet ((Quiet.refl w).record (.invoked d s) trivial)
  | answered d s outcome => exact h.quiet ((Quiet.refl w).record (.answered d s outcome) trivial)
  | heard d result => exact h.quiet ((Quiet.refl w).record (.heard d result) trivial)
  | released d result => exact h.quiet ((Quiet.refl w).record (.released d result) trivial)
  | concluded d result => exact h.quiet ((Quiet.refl w).record (.concluded d result) trivial)
  | returned d x =>
    exact (h.quiet ((Quiet.refl w).record (.returned d x) trivial)).quiet (.keepReturned _ x)
  | failed d x =>
    exact (h.quiet ((Quiet.refl w).record (.failed d x) trivial)).quiet (.keepFailed _ x)

theorem sound_empty : Sound {} :=
  ⟨by simp, by simp [history, live, numbers], by simp [history], by simp, by simp [history, live]⟩

theorem Leads.sound {w v : Exchange} (run : Leads w v) (h : w.Sound) : v.Sound := by
  induction run with
  | refl => exact h
  | tail _ step ih => exact step.elim (·.sound ih) (·.sound ih)

theorem Reachable.sound {w : Exchange} (h : w.Reachable) : w.Sound := Leads.sound h sound_empty

end Exchange

end MessageBus
