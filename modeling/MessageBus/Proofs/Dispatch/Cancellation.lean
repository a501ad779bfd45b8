import MessageBus.Proofs.Exchange.BusCall
import MessageBus.Proofs.Exchange.Clearing
import MessageBus.Proofs.Registry.Unnumbered

namespace MessageBus

namespace Roll

variable {S S' : Roll} {m : Mailbox}

/-- The mailboxes that a message is for, but for one of them, do not depend on its subscriptions. -/
theorem others_agenda (same : S.others m = S'.others m) (msg : Message) :
    Roll.others ((S.agenda msg).map (·.2)) m = Roll.others ((S'.agenda msg).map (·.2)) m := by
  have split (T : Roll) : Roll.others ((T.agenda msg).map (·.2)) m =
      msg.ancestry.flatMap fun t => (T.others m).filter (·.tag = t) := by
    rw [map_agenda, others, mailboxes, List.map_flatMap, List.filter_flatMap]
    exact List.flatMap_congr fun t _ => others_listFor T m t
  rw [split, split, same]

/-- A message that a mailbox is subscribed to is for it once for each of its subscriptions. -/
theorem count_agenda (S : Roll) (m : Mailbox) (msg : Message) :
    (Roll.mailboxes ((S.agenda msg).map (·.2))).count m =
      if m.tag ∈ msg.ancestry then (S.of m).length else 0 := by
  have counted : (Roll.mailboxes ((S.agenda msg).map (·.2))).count m =
      S.countP fun s => decide (s.mailbox = m) && decide (s.mailbox.tag ∈ msg.ancestry) := by
    rw [← countP_agenda, mailboxes, List.count, List.countP_map]
    rfl
  rw [counted, of, ← List.countP_eq_length_filter]
  split
  · next ht =>
    refine List.countP_congr fun s _ => ?_
    by_cases h : s.mailbox = m <;> simp [h, ht]
  · next ht =>
    refine List.countP_eq_zero.mpr fun s _ => ?_
    by_cases h : s.mailbox = m <;> simp [h, ht]

end Roll

namespace BusCall

variable {m : Mailbox} {x : BusCall} {S S' : Roll}

theorem of_amend (seq : Nat) (others : ∀ y ∈ x.mailbox?, y ≠ m ∧ S.Known y) :
    (x.amend seq S).of m = S.of m := by
  cases x with
  | subscribe y =>
    rw [amend, Roll.of_append]
    simp [Roll.of, (others y rfl).1]
  | unsubscribe y => exact Roll.of_without_other (others y rfl).2 (others y rfl).1
  | publish _ | other _ => rfl

theorem others_amend (seq seq' : Nat) (same : S.others m = S'.others m)
    (others : ∀ y ∈ x.mailbox?, y ≠ m ∧ S.Known y ∧ S'.Known y) :
    (x.amend seq S).others m = (x.amend seq' S').others m := by
  cases x with
  | subscribe y =>
    rw [amend, amend, Roll.others_append, Roll.others_append, same]
    rfl
  | unsubscribe y =>
    obtain ⟨ne, known, known'⟩ := others y rfl
    rw [amend, amend, Roll.others_without_other known ne, Roll.others_without_other known' ne, same]
  | publish _ | other _ => exact same

end BusCall

namespace BusCall

/-- A call is for others than a mailbox: if it is about one at all then about another one, which is
there, and nothing that is run in its course touches the bus. -/
structure ForOthers (m : Mailbox) (depth : Nat) (b : BusId) (x : BusCall) (w : Exchange) :
    Prop where
  other : ∀ y ∈ x.mailbox?, y ≠ m
  known : ∀ y ∈ x.mailbox?, y ∈ w.mailboxes.map (·.mailbox)
  discreet : x.Discreet depth b w

/-- Of a message that is published while a mailbox has one subscription more, against one that is
published while it has `k`: the same is published, the others get the same in the same order, and
the mailbox gets it once for each of its subscriptions if it is subscribed to the message. -/
def Accompanied (m : Mailbox) (k : Nat) (p q : Message × List Mailbox) : Prop :=
  p.1 = q.1 ∧ p.2.filter (· ≠ m) = q.2.filter (· ≠ m) ∧
    p.2.count m = (if m.tag ∈ p.1.ancestry then k + 1 else 0) ∧
    q.2.count m = if m.tag ∈ q.1.ancestry then k else 0

end BusCall

namespace Exchange

variable {w v : Exchange} {b : BusId} {m : Mailbox} {x : BusCall} {depth : Nat}

theorem Sound.known_live (hw : w.Sound) (hm : m ∈ w.mailboxes.map (·.mailbox)) :
    (live b w.history).Known m :=
  fun s hs same => hw.eq_of_id (hw.known b s hs) hm same

/-- Who has subscriptions is there. -/
theorem Sound.mem_of_subscribed (hw : w.Sound) (subscribed : (live b w.history).of m ≠ []) :
    m ∈ w.mailboxes.map (·.mailbox) := by
  obtain ⟨s, hs, rfl⟩ := Roll.exists_of_ne_nil subscribed
  exact hw.known b s hs

/-- Two exchanges in which the subscriptions of a bus are the same in the same order, except that a
mailbox has one more at the end of its own in the first of them. -/
structure Beside (m : Mailbox) (b : BusId) (own : Roll) (s : Subscription) (w v : Exchange) :
    Prop where
  reachable : w.Reachable ∧ v.Reachable
  there : b < w.buses.length ∧ b < v.buses.length
  others : (live b w.history).others m = (live b v.history).others m
  more : (live b w.history).of m = own ++ [s]
  fewer : (live b v.history).of m = own

namespace Beside

variable {own : Roll} {s : Subscription}

/-- What one call makes of such exchanges. -/
theorem make (h : Beside m b own s w v) (hx : x.ForOthers m depth b w)
    (hx' : x.ForOthers m depth b v) :
    Beside m b own s (x.make depth b w) (x.make depth b v) := by
  have sound := h.reachable.1.sound
  have sound' := h.reachable.2.sound
  have goes : Leads w (x.make depth b w) := leads_make hx.known
  have goes' : Leads v (x.make depth b v) := leads_make hx'.known
  have now := sound.live_make h.there.1 hx.known hx.discreet
  have now' := sound'.live_make h.there.2 hx'.known hx'.discreet
  have known (y : Mailbox) (hy : y ∈ x.mailbox?) : (live b w.history).Known y :=
    sound.known_live (hx.known y hy)
  have known' (y : Mailbox) (hy : y ∈ x.mailbox?) : (live b v.history).Known y :=
    sound'.known_live (hx'.known y hy)
  refine ⟨⟨h.reachable.1.trans goes, h.reachable.2.trans goes'⟩, ⟨?_, ?_⟩, ?_, ?_, ?_⟩
  · exact Nat.lt_of_lt_of_le h.there.1 goes.length_buses
  · exact Nat.lt_of_lt_of_le h.there.2 goes'.length_buses
  · rw [now, now']
    exact BusCall.others_amend _ _ h.others fun y hy => ⟨hx.other y hy, known y hy, known' y hy⟩
  · rw [now, BusCall.of_amend _ fun y hy => ⟨hx.other y hy, known y hy⟩]
    exact h.more
  · rw [now', BusCall.of_amend _ fun y hy => ⟨hx'.other y hy, known' y hy⟩]
    exact h.fewer

/-- What one call delivers in such exchanges. -/
theorem delivery (h : Beside m b own s w v) (hx : x.ForOthers m depth b w)
    (hx' : x.ForOthers m depth b v) (completes : x.Completes depth b w)
    (completes' : x.Completes depth b v) :
    List.Forall₂ (BusCall.Accompanied m own.length) (x.delivery? depth b w).toList
      (x.delivery? depth b v).toList := by
  cases x with
  | subscribe y | unsubscribe y | other step => exact .nil
  | publish msg =>
    have invoked := (h.reachable.1.sound.live_publish h.there.1 hx.discreet).2 completes
    have invoked' := (h.reachable.2.sound.live_publish h.there.2 hx'.discreet).2 completes'
    refine .cons ⟨rfl, ?_, ?_, ?_⟩ .nil
    · rw [invoked, invoked']
      exact Roll.others_agenda h.others msg
    · rw [invoked]
      have counted := (live b w.history).count_agenda m msg
      rwa [h.more, List.length_append] at counted
    · rw [invoked']
      have counted := (live b v.history).count_agenda m msg
      rwa [h.fewer] at counted

/-- What calls that are made one after another make of such exchanges, and what they deliver. -/
theorem makeAll {calls : List BusCall} (h : Beside m b own s w v)
    (apart : BusCall.Throughout (BusCall.ForOthers m) depth b calls w)
    (apart' : BusCall.Throughout (BusCall.ForOthers m) depth b calls v) :
    Beside m b own s (BusCall.makeAll depth b calls w) (BusCall.makeAll depth b calls v) ∧
      (BusCall.Throughout BusCall.Completes depth b calls w →
        BusCall.Throughout BusCall.Completes depth b calls v →
        List.Forall₂ (BusCall.Accompanied m own.length) (BusCall.deliveries depth b calls w)
          (BusCall.deliveries depth b calls v)) := by
  induction calls generalizing w v with
  | nil => exact ⟨h, fun _ _ => .nil⟩
  | cons x calls ih =>
    obtain ⟨hx, rest⟩ := apart
    obtain ⟨hx', rest'⟩ := apart'
    obtain ⟨after, delivered⟩ := ih (h.make hx hx') rest rest'
    refine ⟨after, fun completes completes' => ?_⟩
    have first := h.delivery hx hx' completes.1 completes'.1
    exact List.rel_append first (delivered completes.2 completes'.2)

end Beside

/-- Who subscribes once more has one more subscription than without. -/
theorem Reachable.beside_subscribe (hw : w.Reachable) (hb : b < w.buses.length)
    (hm : m ∈ w.mailboxes.map (·.mailbox)) (depth : Nat) :
    Beside m b ((live b w.history).of m) { seq := (w.registryOf b).nextSeq, mailbox := m }
      (BusCall.make depth b (.subscribe m) w) w := by
  have goes : Leads w (BusCall.make depth b (.subscribe m) w) :=
    leads_make fun y hy => Option.mem_some_iff.mp hy ▸ hm
  have now := live_subscribe hb m depth
  refine ⟨⟨hw.trans goes, hw⟩, ⟨Nat.lt_of_lt_of_le hb goes.length_buses, hb⟩, ?_, ?_, rfl⟩
  · rw [now, Roll.others_append]
    simp [Roll.others, Roll.mailboxes]
  · rw [now, Roll.of_append]
    simp [Roll.of]

/-- Taking back a subscription of a mailbox that has one, and a handle, succeeds. -/
theorem Sound.unsubscribe_of_handle (hw : w.Sound) (hb : b < w.buses.length)
    (subscribed : (live b w.history).of m ≠ []) (handle : .mailbox m.id ∈ w.desk.refs)
    (depth : Nat) :
    (∃ cell, w.buses[b]? = some cell ∧
      (unsubscribeMailbox (runner (depth + 1)) b cell m w).2 = .ok .done) ∧
    Leads w (BusCall.make (depth + 1) b (.unsubscribe m) w) ∧
    live b (BusCall.make (depth + 1) b (.unsubscribe m) w).history =
      (live b w.history).without m.id := by
  have here := List.getElem?_eq_getElem hb
  have known := hw.known_live (b := b) (hw.mem_of_subscribed subscribed)
  have one_tag : ∀ x ∈ live b w.history, x.mailbox.id = m.id → x.mailbox.tag = m.tag :=
    fun x hx same => congrArg Mailbox.tag (known x hx same)
  obtain ⟨s, hs⟩ : ∃ s, (live b w.history).find? (·.mailbox.id = m.id) = some s := by
    obtain ⟨x, hx, rfl⟩ := Roll.exists_of_ne_nil subscribed
    rw [← Option.isSome_iff_exists, List.find?_isSome]
    exact ⟨x, hx, by simp⟩
  obtain ⟨registry, taken, -⟩ := (hw.fits b _ here).lists.unsubscribe_some m one_tag hs
  obtain ⟨hist, done⟩ := unsubscribeMailbox_of_handle (b := b) taken handle (depth + 1)
  refine ⟨⟨_, here, done (Nat.succ_pos depth)⟩, leads_make ?_, ?_⟩
  · simpa [BusCall.mailbox?] using hw.mem_of_subscribed subscribed
  · rw [make_some here]
    dsimp only
    rw [hist, live_append]
    simp [Occurrence.amend]

theorem Sound.lists (hw : w.Sound) (hb : b < w.buses.length) :
    (w.registryOf b).Lists (live b w.history) := by
  have here := List.getElem?_eq_getElem hb
  rw [registryOf_eq here]
  exact (hw.fits b _ here).lists

/-- Taking back the one subscription more leaves the others as they are without it, and takes the
earliest of the mailbox. -/
theorem Beside.unsubscribe {own : Roll} {s : Subscription} (h : Beside m b own s w v)
    (handle : .mailbox m.id ∈ w.desk.refs) (depth : Nat) :
    let u := BusCall.make (depth + 1) b (.unsubscribe m) w
    (∃ cell, w.buses[b]? = some cell ∧
      (unsubscribeMailbox (runner (depth + 1)) b cell m w).2 = .ok .done) ∧
    u.Reachable ∧ b < u.buses.length ∧
    (live b u.history).others m = (live b v.history).others m ∧
    (live b u.history).of m = (own ++ [s]).tail := by
  intro u
  have sound := h.reachable.1.sound
  have subscribed : (live b w.history).of m ≠ [] := by simp [h.more]
  have known := sound.known_live (b := b) (sound.mem_of_subscribed subscribed)
  obtain ⟨done, goes, left⟩ :=
    sound.unsubscribe_of_handle h.there.1 subscribed handle depth
  refine ⟨done, h.reachable.1.trans goes, ?_, ?_, ?_⟩
  · exact Nat.lt_of_lt_of_le h.there.1 goes.length_buses
  · rw [left, Roll.others_without_self known, h.others]
  · rw [left, Roll.of_without_self known, h.more]

/-- Subscribing a mailbox and taking that back later cancel out, whatever others subscribe, take
back and publish in between, if nothing that is run meanwhile touches the bus: taking back succeeds,
and if the mailbox had no subscription then the lists are, but for the numbers, what they are
without the two. If it had some, then the earliest of them is gone and the new one is left, while
the others are in the same order. Unless it is broken off, what is published in between gets to the
same mailboxes as without the two, and to the mailbox itself as often as it is subscribed to it. -/
theorem subscription_cancels (hw : w.Reachable) (hb : b < w.buses.length)
    (hm : m ∈ w.mailboxes.map (·.mailbox)) {calls : List BusCall}
    (apart : BusCall.Throughout (BusCall.ForOthers m) (depth + 1) b calls
      (BusCall.make (depth + 1) b (.subscribe m) w))
    (apart' : BusCall.Throughout (BusCall.ForOthers m) (depth + 1) b calls w)
    (handle : .mailbox m.id ∈ (BusCall.makeAll (depth + 1) b calls
      (BusCall.make (depth + 1) b (.subscribe m) w)).desk.refs) :
    let own := Roll.of ((w.registryOf b).listFor m.tag) m
    let begun := BusCall.make (depth + 1) b (.subscribe m) w
    let v := BusCall.makeAll (depth + 1) b calls begun
    let after := (BusCall.make (depth + 1) b (.unsubscribe m) v).registryOf b
    let without := (BusCall.makeAll (depth + 1) b calls w).registryOf b
    (∃ cell, v.buses[b]? = some cell ∧
      (unsubscribeMailbox (runner (depth + 1)) b cell m v).2 = .ok .done) ∧
    (own = [] → after.unnumbered.Perm without.unnumbered) ∧
    (∀ first rest, own = first :: rest →
      Roll.of (after.listFor m.tag) m =
          rest ++ [{ seq := (w.registryOf b).nextSeq, mailbox := m }] ∧
        Roll.of (without.listFor m.tag) m = first :: rest) ∧
    (∀ t, Roll.others (after.listFor t) m = Roll.others (without.listFor t) m) ∧
    (BusCall.Throughout BusCall.Completes (depth + 1) b calls begun →
      BusCall.Throughout BusCall.Completes (depth + 1) b calls w →
      List.Forall₂ (BusCall.Accompanied m own.length)
        (BusCall.deliveries (depth + 1) b calls begun)
        (BusCall.deliveries (depth + 1) b calls w)) := by
  intro own begun v after without
  have own_eq : own = (live b w.history).of m := by
    rw [← Roll.of_listFor, ← (hw.sound.lists hb).listFor]
  obtain ⟨beside, delivered⟩ := (hw.beside_subscribe hb hm (depth + 1)).makeAll apart apart'
  rw [← own_eq] at beside delivered
  obtain ⟨done, reached, there, same, rest⟩ := beside.unsubscribe handle depth
  have lists : after.Lists _ := reached.sound.lists there
  have lists' : without.Lists _ := beside.reachable.2.sound.lists beside.there.2
  refine ⟨done, ?_, ?_, ?_, delivered⟩
  · intro none_of
    refine lists.perm_unnumbered (reached.filled b) lists' (beside.reachable.2.filled b) fun t => ?_
    rw [Roll.mailboxes_listFor, Roll.mailboxes_listFor, Roll.mailboxes_eq_others, same,
      ← Roll.mailboxes_eq_others]
    · rw [beside.fewer, none_of]
    · rw [rest, none_of]
      rfl
  · intro first others e
    rw [lists.listFor, lists'.listFor, Roll.of_listFor, Roll.of_listFor, rest, beside.fewer, e]
    exact ⟨rfl, rfl⟩
  · intro t
    rw [lists.listFor, lists'.listFor, Roll.others_listFor, Roll.others_listFor, same]

/-- A bus with two sinks of its own, and three mailboxes for a note, of which the first fails. -/
def parlour (deadLetters failures : Reaction) : Exchange :=
  let mailbox (id : String) (ending : Ending) : Nat × Step :=
    (1, .openMailbox id id { tag := .child "Note" .root }
      (.responding (fun _ _ => .mk [] ending) false none) none)
  run {}
    [(1, .openBus "bus" (.responding (fun _ _ => deadLetters) fun _ _ => failures)),
      mailbox "first" (.refuse (.recoverable (.text "busy"))), mailbox "second" .succeed,
      mailbox "third" .succeed]

/-- The first mailbox subscribes and takes that back: without any other subscription of its own, and
with one that it had before. -/
theorem subscription_cancels_parlour :
    let first : Mailbox := ⟨0, "first", { tag := .child "Note" .root }⟩
    let second : Mailbox := ⟨1, "second", { tag := .child "Note" .root }⟩
    let calls : List BusCall := [.subscribe second, .publish (.top "Note" (.word "Note"))]
    let start (k : Nat) : Exchange :=
      BusCall.makeAll 4 0 (.replicate k (.subscribe first))
        (parlour (.mk [] .succeed) (.mk [] .succeed))
    let begun (k : Nat) := BusCall.make 4 0 (.subscribe first) (start k)
    let got (u : Exchange) := BusCall.deliveries 4 0 calls u
    let after (k : Nat) :=
      (BusCall.make 4 0 (.unsubscribe first) (BusCall.makeAll 4 0 calls (begun k))).registryOf 0
    let without (k : Nat) := (BusCall.makeAll 4 0 calls (start k)).registryOf 0
    ((start 0).Reachable ∧ (got (begun 0)).map (·.2) = [[first, second]] ∧
      (got (start 0)).map (·.2) = [[second]] ∧
      List.Forall₂ (BusCall.Accompanied first 0) (got (begun 0)) (got (start 0)) ∧
      (after 0).unnumbered.Perm (without 0).unnumbered) ∧
    (start 1).Reachable ∧ (got (begun 1)).map (·.2) = [[first, first, second]] ∧
      (got (start 1)).map (·.2) = [[first, second]] ∧
      List.Forall₂ (BusCall.Accompanied first 1) (got (begun 1)) (got (start 1)) ∧
      Roll.of ((after 1).listFor first.tag) first = [{ seq := 1, mailbox := first }] ∧
      Roll.of ((without 1).listFor first.tag) first = [{ seq := 0, mailbox := first }] := by
  intro first second calls start begun got after without
  let note : BusCall := .publish (.top "Note" (.word "Note"))
  let runs : List Exchange := [start 0, begun 0, start 1, begun 1]
  have apart : ∀ u ∈ runs, BusCall.Throughout (BusCall.ForOthers first) 4 0 calls u := by
    have other : second ≠ first := by decide
    have known : ∀ u ∈ runs, second ∈ u.mailboxes.map (·.mailbox) := by decide +kernel
    have discreet : ∀ u ∈ runs,
        ((BusCall.subscribe second).course 4 0 u).countP (Occurrence.touches 0) ≤ 1 ∧
          (note.course 4 0 (BusCall.make 4 0 (.subscribe second) u)).countP
            (Occurrence.touches 0) ≤ 1 := by
      decide +kernel
    intro u hu
    refine ⟨⟨?_, ?_, (discreet u hu).1⟩, ⟨?_, ?_, (discreet u hu).2⟩, trivial⟩
    · simpa [BusCall.mailbox?] using other
    · simpa [BusCall.mailbox?] using known u hu
    · simp [BusCall.mailbox?]
    · simp [BusCall.mailbox?]
  have completes : ∀ u ∈ runs, BusCall.Throughout BusCall.Completes 4 0 calls u := by
    have still : ∀ u ∈ runs, BusCall.undisturbed (BusCall.course 4 0 (.subscribe second) u) = true ∧
        BusCall.undisturbed (note.course 4 0 (BusCall.make 4 0 (.subscribe second) u)) = true := by
      decide +kernel
    exact fun u hu => ⟨.of_undisturbed (still u hu).1, .of_undisturbed (still u hu).2, trivial⟩
  have there : ∀ k < 2, 0 < (start k).buses.length ∧ first ∈ (start k).mailboxes.map (·.mailbox) ∧
      .mailbox first.id ∈ (BusCall.makeAll 4 0 calls (begun k)).desk.refs := by
    decide +kernel
  constructor
  · have comes : (start 0).Reachable := reachable_run _
    have empty : Roll.of (((start 0).registryOf 0).listFor first.tag) first = [] := by
      decide +kernel
    obtain ⟨hb, hm, handle⟩ := there 0 (by decide)
    obtain ⟨-, cancelled, -, -, delivered⟩ :=
      subscription_cancels comes hb hm (apart (begun 0) (by simp [runs]))
        (apart (start 0) (by simp [runs])) handle
    rw [empty] at delivered
    exact ⟨comes, by decide +kernel, by decide +kernel,
      delivered (completes (begun 0) (by simp [runs])) (completes (start 0) (by simp [runs])),
      cancelled empty⟩
  · obtain ⟨hb, hm, handle⟩ := there 1 (by decide)
    have goes : Leads (start 0) (BusCall.make 4 0 (.subscribe first) (start 0)) :=
      leads_make fun y hy => Option.mem_some_iff.mp hy ▸ (there 0 (by decide)).2.1
    have comes : (start 1).Reachable := (reachable_run _).trans goes
    have own : Roll.of (((start 1).registryOf 0).listFor first.tag) first =
        [{ seq := 0, mailbox := first }] := by
      decide +kernel
    obtain ⟨-, -, kept, -, delivered⟩ :=
      subscription_cancels comes hb hm (apart (begun 1) (by simp [runs]))
        (apart (start 1) (by simp [runs])) handle
    rw [own] at delivered
    have next : ((start 1).registryOf 0).nextSeq = 1 := by decide +kernel
    obtain ⟨with_pair, without_pair⟩ := kept _ _ own
    rw [next] at with_pair
    exact ⟨comes, by decide +kernel, by decide +kernel,
      delivered (completes (begun 1) (by simp [runs])) (completes (start 1) (by simp [runs])),
      with_pair, without_pair⟩

/-- Sinks can stand in the way. Though mailboxes do nothing but succeed or fail recoverably, it
makes a difference to the others whether one of them was subscribed for a while, when the failure
sink panics, when the dead letter sink subscribes, and when the failure sink does. -/
theorem subscription_felt_through_sinks :
    let first : Mailbox := ⟨0, "first", { tag := .child "Note" .root }⟩
    let second : Mailbox := ⟨1, "second", { tag := .child "Note" .root }⟩
    let third : Mailbox := ⟨2, "third", { tag := .child "Note" .root }⟩
    let note : BusCall := .publish (.top "Note" (.word "Note"))
    let kept (xs : List BusCall) (w : Exchange) : List (Tag × List Mailbox) :=
      ((BusCall.makeAll 4 0 xs w).registryOf 0).unnumbered
    let got (xs : List BusCall) (w : Exchange) : List (List Mailbox) :=
      (BusCall.deliveries 4 0 xs w).map (·.2)
    let calm : Reaction := .mk [] .succeed
    let subscribing : Reaction := .mk [.subscribe "bus" "third" false] .succeed
    let panicking := parlour calm (.mk [] (.panic "full"))
    let welcoming := parlour subscribing calm
    let consoling := parlour calm subscribing
    (∀ deadLetters failures, (parlour deadLetters failures).Reachable ∧
      ∀ cell ∈ (parlour deadLetters failures).mailboxes, cell.onDrop = none ∧ ∃ ending,
        cell.handler = .responding (fun _ _ => .mk [] ending) false none ∧
          (ending = .succeed ∨ ∃ cause, ending = .refuse (.recoverable cause))) ∧
    (got [.subscribe first, .subscribe second, note, .unsubscribe first] panicking = [[first]] ∧
      got [.subscribe second, note] panicking = [[second]]) ∧
    (kept [.subscribe first, note, .unsubscribe first] welcoming = [] ∧
      kept [note] welcoming = [(.child "Note" .root, [third])]) ∧
    kept [.subscribe first, note, .unsubscribe first] consoling = [(.child "Note" .root, [third])] ∧
      kept [note] consoling = [] := by
  intro first second third note kept got calm subscribing panicking welcoming consoling
  refine ⟨fun deadLetters failures => ⟨reachable_run _, ?_⟩, ?_, ?_, ?_⟩
  · have made : (parlour deadLetters failures).mailboxes.map (fun c => (c.onDrop, c.handler)) =
        [(none, .responding (fun _ _ => .mk [] (.refuse (.recoverable (.text "busy")))) false none),
          (none, .responding (fun _ _ => .mk [] .succeed) false none),
          (none, .responding (fun _ _ => .mk [] .succeed) false none)] := rfl
    intro cell hc
    have member := List.mem_map_of_mem (f := fun c : MailboxCell => (c.onDrop, c.handler)) hc
    rw [made] at member
    simp only [List.mem_cons, List.not_mem_nil, or_false, Prod.mk.injEq] at member
    obtain ⟨kept, handler⟩ | ⟨kept, handler⟩ | ⟨kept, handler⟩ := member
    · exact ⟨kept, _, handler, .inr ⟨_, rfl⟩⟩
    · exact ⟨kept, _, handler, .inl rfl⟩
    · exact ⟨kept, _, handler, .inl rfl⟩
  · decide +kernel
  · decide +kernel
  · decide +kernel

end Exchange

end MessageBus
