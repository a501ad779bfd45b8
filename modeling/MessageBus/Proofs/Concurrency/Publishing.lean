import MessageBus.Proofs.Concurrency.Deeds
import MessageBus.Proofs.Concurrency.Progress
import MessageBus.Proofs.Concurrency.Sighted

namespace MessageBus.Concurrency

/-- What a publish found, type by type. -/
abbrev Findings := List (Tag × List Subscription)

/-- The subscriptions that were found, in the order in which they are delivered to. -/
def Findings.all (found : Findings) : List Subscription := found.flatMap (·.2)

/-- The looks of one publish. The window lasts from the first to the last of them, and each of them
found what was live at a moment of the window. -/
structure Looked (i : Nat) (m : Message) (earlier window : List Event) (found : Findings) :
    Prop where
  looks : own i window = found.map fun p => .looked m p.1 p.2
  moment : ∀ p ∈ found, ∃ before, before <+: window ∧
    p.2 = Roll.listFor (live (earlier ++ before)) p.1
  ends : window = [] ∨ (∃ a rest, window = (i, a) :: rest) ∧ ∃ a start, window = start ++ [(i, a)]

section looks

variable {i : Nat} {m : Message} {earlier before window after : List Event} {found : Findings}

theorem own_self (i : Nat) (a : Action) : own i [(i, a)] = [a] := by simp [own]

theorem looked_nil (i : Nat) (m : Message) (earlier : List Event) : Looked i m earlier [] [] :=
  ⟨rfl, by simp, .inl rfl⟩

/-- Without a look there is no window yet. -/
theorem Looked.eq_nil (h : Looked i m earlier window []) : window = [] := by
  rcases h.ends with rfl | ⟨⟨a, rest, rfl⟩, -⟩
  · rfl
  · have looks := h.looks
    simp [own] at looks

/-- The first look opens the window. -/
theorem looked_first (i : Nat) (m : Message) (earlier : List Event) (t : Tag) :
    Looked i m earlier [(i, .looked m t ((live earlier).listFor t))]
      [(t, (live earlier).listFor t)] := by
  refine ⟨by simp [own], fun p hp => ⟨[], List.nil_prefix, ?_⟩,
    .inr ⟨⟨_, [], rfl⟩, ⟨_, [], rfl⟩⟩⟩
  rw [List.mem_singleton.mp hp, List.append_nil]

/-- Every other look makes the window last until then. -/
theorem Looked.next (h : Looked i m earlier window found) (some_found : found ≠ [])
    (quiet : own i after = []) {t : Tag} {list : List Subscription}
    (hl : list = (live (earlier ++ window ++ after)).listFor t) :
    Looked i m earlier (window ++ after ++ [(i, .looked m t list)]) (found ++ [(t, list)]) := by
  refine ⟨?_, ?_, .inr ⟨?_, ⟨_, _, rfl⟩⟩⟩
  · rw [own_append, own_append, h.looks, quiet, own_self]
    simp
  · intro p hp
    rcases List.mem_append.mp hp with hp | hp
    · obtain ⟨before, hb, same⟩ := h.moment p hp
      refine ⟨before, hb.trans ?_, same⟩
      rw [List.append_assoc]
      exact List.prefix_append _ _
    · rw [List.mem_singleton.mp hp]
      refine ⟨window ++ after, List.prefix_append _ _, ?_⟩
      rw [hl, List.append_assoc]
  · rcases h.ends with rfl | ⟨⟨a, rest, rfl⟩, -⟩
    · have own_found := h.looks
      simp [own] at own_found
      exact absurd own_found some_found
    · exact ⟨a, _, rfl⟩

end looks

/-- Whether an action belongs to the end of a publish. -/
def Action.isGiving : Action → Bool
  | .invoked _ _ => true
  | .stopped _ _ => true
  | .mismatched _ _ => true
  | .returned _ => true
  | _ => false

/-- Whether the next action of a thread belongs to the end of a publish. -/
def Thread.isGiving (t : Thread) : Bool :=
  match t.stage with
  | .looking _ [] _ => true
  | .delivering _ _ => true
  | _ => false

/-- Whether a thread went on to something else. -/
inductive Gone : List Action → Thread → Prop
  | still {t : Thread} (calm : t.isGiving = false) : Gone [] t
  | again {a : Action} (rest : List Action) (t : Thread) (other : a.isGiving = false) :
      Gone (a :: rest) t

variable {f : Fleet} {s : Shared} {t t' : Thread} {acts : List Action} {r : Registry} {v : Resolver}
  {i : Nat} {m : Message} {L : List Subscription}

/-- How a publish ends that found some subscriptions. -/
inductive Ended (m : Message) (L : List Subscription) : List Action → Prop
  | returned (nothing : L = []) : Ended m L [.returned m]
  | delivered (some_found : L ≠ []) : Ended m L (L.map (.invoked m))
  | stopped (front : List Subscription) (x : Subscription) (back : List Subscription)
      (parts : L = front ++ x :: back) :
      Ended m L (front.map (.invoked m) ++ [.invoked m x, .stopped m x])
  | mismatched (front : List Subscription) (x : Subscription) (back : List Subscription)
      (parts : L = front ++ x :: back) :
      Ended m L (front.map (.invoked m) ++ [.mismatched m x])

/-- What a thread does once its publish has found some subscriptions. -/
inductive Giving (m : Message) (L : List Subscription) : List Action → Thread → Prop
  | delivering (front left : List Subscription) (calls : List Call) (parts : L = front ++ left)
      (some_found : L ≠ []) : Giving m L (front.map (.invoked m)) ⟨.delivering m left, calls⟩
  | past {ended rest : List Action} {t : Thread} (done : Ended m L ended) (gone : Gone rest t) :
      Giving m L (ended ++ rest) t

theorem isGiving_looking {left : List Tag} (h : left ≠ []) (m : Message) (found : List Route)
    (calls : List Call) : Thread.isGiving ⟨.looking m left found, calls⟩ = false := by
  cases left with
  | nil => exact absurd rfl h
  | cons t left => rfl

/-- What a thread that is not at the end of a publish does next belongs to none either. -/
theorem Move.gone (h : s.resolver.Sound) (ht : t.Exact) (move : Move s t acts t' r v)
    (calm : t.isGiving = false) : Gone acts t' := by
  cases move with
  | look m u left found calls => exact .again _ _ rfl
  | append m n calls => exact .again _ _ rfl
  | fail m calls absent => exact .again _ _ rfl
  | remove m calls found => exact .again _ _ rfl
  | known m calls kept =>
    refine .still (isGiving_looking ?_ _ _ _)
    rw [h m.tag _ kept]
    exact m.tag.lineage_ne_nil
  | keep m c calls =>
    refine .still (isGiving_looking ?_ _ _ _)
    rw [h.tags_keep ht]
    exact m.tag.lineage_ne_nil
  | giveBack m calls => simp [Thread.isGiving] at calm
  | handOut m route routes calls => simp [Thread.isGiving] at calm
  | finish m calls => simp [Thread.isGiving] at calm
  | invoke m x left calls => simp [Thread.isGiving] at calm
  | stop m x left calls => simp [Thread.isGiving] at calm
  | mismatch m x left calls => simp [Thread.isGiving] at calm
  | _ => exact .still rfl

theorem Gone.step {rest : List Action} (h : Gone rest t) (sound : s.resolver.Sound) (ht : t.Exact)
    (move : Move s t acts t' r v) : Gone (rest ++ acts) t' := by
  cases h with
  | still calm => exact move.gone sound ht calm
  | again rest t other => exact .again _ _ other

theorem Ended.giving {ended : List Action} (h : Ended m L ended) (calls : List Call) :
    Giving m L ended ⟨.idle, calls⟩ := by
  have past := Giving.past (t := ⟨.idle, calls⟩) h (.still rfl)
  rwa [List.append_nil] at past

theorem Giving.step {done : List Action} (h : Giving m L done t) (sound : s.resolver.Sound)
    (ht : t.Exact) (move : Move s t acts t' r v) : Giving m L (done ++ acts) t' := by
  cases h with
  | past ended gone =>
    rw [List.append_assoc]
    exact .past ended (gone.step sound ht move)
  | delivering front left calls parts some_found =>
    cases move with
    | finish m calls =>
      rw [List.append_nil] at parts ⊢
      subst parts
      exact (Ended.delivered some_found).giving calls
    | invoke m x left calls seen goes =>
      have next := Giving.delivering (m := m) (front ++ [x]) left calls (by simp [parts]) some_found
      rwa [List.map_append] at next
    | stop m x left calls seen stops => exact (Ended.stopped front x left parts).giving calls
    | mismatch m x left calls unseen => exact (Ended.mismatched front x left parts).giving calls

/-- How far a publish has got since it was called. -/
inductive Status (i : Nat) (m : Message) (calls : List Call) (earlier since : List Event) :
    Thread → Prop
  | called (quiet : own i since = []) : Status i m calls earlier since ⟨.idle, .publish m :: calls⟩
  | unresolved (quiet : own i since = []) : Status i m calls earlier since ⟨.unresolved m, calls⟩
  | computed (c : Chain) (chain : c.tags = m.ancestry) (quiet : own i since = []) :
      Status i m calls earlier since ⟨.computed m c, calls⟩
  | looking {before window after : List Event} (parts : since = before ++ window ++ after)
      (quiet : own i before = []) (quiet' : own i after = []) {found : Findings}
      (looked : Looked i m (earlier ++ before) window found) (left : List Tag)
      (tags : found.map (·.1) ++ left = m.ancestry) (routes : List Route)
      (same : routes.flatMap (·.subscriptions) = found.all)
      (filled : ∀ route ∈ routes, route.subscriptions ≠ []) :
      Status i m calls earlier since ⟨.looking m left routes, calls⟩
  | giving {before window after : List Event} (parts : since = before ++ window ++ after)
      (quiet : own i before = []) {found : Findings}
      (looked : Looked i m (earlier ++ before) window found)
      (tags : found.map (·.1) = m.ancestry) {t : Thread}
      (giving : Giving m found.all (own i after) t) : Status i m calls earlier since t

variable {calls : List Call} {earlier since : List Event}

/-- What other threads do leaves a publish where it is. -/
theorem Status.frame (h : Status i m calls earlier since t) {others : List Event}
    (quiet : own i others = []) : Status i m calls earlier (since ++ others) t := by
  have still (events : List Event) (none_own : own i events = []) :
      own i (events ++ others) = [] := by
    rw [own_append, none_own, quiet, List.append_nil]
  cases h with
  | called before => exact .called (still _ before)
  | unresolved before => exact .unresolved (still _ before)
  | computed c chain before => exact .computed c chain (still _ before)
  | looking parts before after looked left tags routes same filled =>
    refine .looking (by rw [parts, List.append_assoc]) before (still _ after) looked left tags
      routes same filled
  | giving parts before looked tags giving =>
    refine .giving (by rw [parts, List.append_assoc]) before looked tags ?_
    rwa [own_append, quiet, List.append_nil]

theorem flatMap_routeFor (r : Registry) (u : Tag) :
    (r.routeFor u).toList.flatMap (·.subscriptions) = r.listFor u := by
  rw [Registry.routeFor]
  cases r.listFor u <;> simp

theorem filled_routeFor {r : Registry} {u : Tag} {route : Route}
    (h : route ∈ (r.routeFor u).toList) : route.subscriptions ≠ [] := by
  rw [Registry.routeFor] at h
  cases found : r.listFor u with
  | nil => simp [found] at h
  | cons x rest =>
    rw [found] at h
    rw [List.mem_singleton.mp h]
    simp

theorem own_map_self (i : Nat) (acts : List Action) : own i (acts.map (i, ·)) = acts := by
  rw [own_map, if_pos rfl]

theorem Status.begun (quiet : own i since = []) {tags : List Tag} (chain : tags = m.ancestry)
    (calls : List Call) : Status i m calls earlier since ⟨.looking m tags [], calls⟩ := by
  have parts : since = since ++ [] ++ [] := by simp
  exact .looking parts quiet rfl (looked_nil i m _) tags chain [] rfl (by simp)

/-- Each look finds what is live at its moment. -/
theorem Status.look {before window after : List Event} (quiet : own i before = [])
    (quiet' : own i after = []) {found : Findings}
    (looked : Looked i m (earlier ++ before) window found) {u : Tag} {left : List Tag}
    (tags : found.map (·.1) ++ u :: left = m.ancestry) {routes routes' : List Route}
    {list : List Subscription}
    (hl : list = (live (earlier ++ before ++ window ++ after)).listFor u)
    (same : routes.flatMap (·.subscriptions) = found.all)
    (more : routes'.flatMap (·.subscriptions) = list)
    (filled : ∀ route ∈ routes ++ routes', route.subscriptions ≠ []) (calls : List Call) :
    Status i m calls earlier (before ++ window ++ after ++ [(i, .looked m u list)])
      ⟨.looking m left (routes ++ routes'), calls⟩ := by
  have tags' : (found ++ [(u, list)]).map (·.1) ++ left = m.ancestry := by simpa using tags
  have same' :
      (routes ++ routes').flatMap (·.subscriptions) = Findings.all (found ++ [(u, list)]) := by
    rw [List.flatMap_append, same, more, Findings.all, Findings.all, List.flatMap_append]
    simp
  by_cases first : found = []
  · -- What came before the first look does not belong to the window.
    subst first
    obtain rfl := looked.eq_nil
    rw [List.append_nil, List.append_assoc] at hl
    rw [hl] at tags' same' ⊢
    have parts :
        before ++ [] ++ after ++
            [(i, .looked m u ((live (earlier ++ (before ++ after))).listFor u))] =
          (before ++ after) ++
            [(i, .looked m u ((live (earlier ++ (before ++ after))).listFor u))] ++ [] := by
      simp
    exact .looking parts (by rw [own_append, quiet, quiet', List.append_nil]) rfl
      (looked_first i m _ u) left tags' _ same' filled
  · have parts : before ++ window ++ after ++ [(i, .looked m u list)] =
        before ++ (window ++ after ++ [(i, .looked m u list)]) ++ [] := by simp
    exact .looking parts quiet rfl (looked.next first quiet' hl) left tags' _ same' filled

/-- A step of the publishing thread. -/
theorem Status.step (h : Status i m calls earlier since t) (kept : Kept f)
    (now : f.shared.events = earlier ++ since) (sound : f.shared.resolver.Sound) (ht : t.Exact)
    (move : Move f.shared t acts t' r v) :
    Status i m calls earlier (since ++ acts.map (i, ·)) t' := by
  cases h with
  | called quiet =>
    cases move with
    | known m calls known =>
      rw [List.map_nil, List.append_nil]
      exact .begun quiet (sound m.tag _ known) calls
    | miss m calls unkept =>
      rw [List.map_nil, List.append_nil]
      exact .unresolved quiet
  | unresolved quiet =>
    cases move with
    | compute m calls =>
      rw [List.map_nil, List.append_nil]
      exact .computed _ rfl quiet
  | computed c chain quiet =>
    cases move with
    | keep m c calls =>
      rw [List.map_nil, List.append_nil]
      exact .begun quiet (sound.tags_keep chain) calls
  | @looking before window after parts quiet quiet' found looked left tags routes same filled =>
    cases move with
    | look m u left routes calls =>
      have list : f.shared.registry.listFor u =
          (live (earlier ++ before ++ window ++ after)).listFor u := by
        rw [kept.lists.listFor, now, parts]
        simp [List.append_assoc]
      rw [parts]
      exact .look quiet quiet' looked tags list same (flatMap_routeFor _ u)
        (fun route hr => (List.mem_append.mp hr).elim (filled route) filled_routeFor) calls
    | giveBack m calls =>
      have nothing : found.all = [] := same.symm
      refine .giving (by rw [parts, List.append_assoc]) quiet looked (by simpa using tags) ?_
      rw [own_append, quiet', own_map_self]
      exact (Ended.returned nothing).giving calls
    | handOut m route routes calls =>
      have some_found : found.all ≠ [] := by
        rw [← same, List.flatMap_cons]
        exact fun e => filled route List.mem_cons_self (List.append_eq_nil_iff.mp e).1
      refine .giving (by rw [parts, List.append_assoc]) quiet looked (by simpa using tags) ?_
      rw [own_append, quiet', same]
      exact .delivering [] found.all calls rfl some_found
  | @giving before window after parts quiet found looked tags t giving =>
    refine .giving (by rw [parts, List.append_assoc]) quiet looked tags ?_
    rw [own_append, own_map_self]
    exact giving.step sound ht move

variable {programs : List (List Call)}

/-- Every later moment finds a publish at one of its stages. -/
theorem status_run (h : Regular programs f)
    (call : f.threads[i]? = some ⟨.idle, .publish m :: calls⟩) (later : List Nat) :
    Regular programs (f.run later) ∧ ∃ since u,
      (f.run later).shared.events = f.shared.events ++ since ∧
      (f.run later).threads[i]? = some u ∧ Status i m calls f.shared.events since u := by
  refine Fleet.run_induction (P := fun g => Regular programs g ∧ ∃ since u,
      g.shared.events = f.shared.events ++ since ∧ g.threads[i]? = some u ∧
      Status i m calls f.shared.events since u)
    ⟨h, [], _, (List.append_nil _).symm, call, .called rfl⟩ ?_ later
  intro g j t acts t' r v there move ⟨regular, since, u, now, thread, status⟩
  have inRange : j < g.threads.length := (List.getElem?_eq_some_iff.mp there).1
  refine ⟨regular.after there move, since ++ acts.map (j, ·), ?_⟩
  rw [g.events_after, now, List.append_assoc]
  by_cases same : j = i
  · subst same
    obtain rfl := Option.some.inj (there.symm.trans thread)
    refine ⟨t', rfl, List.getElem?_set_self inRange, ?_⟩
    exact status.step regular.kept now regular.chains.resolver (regular.chains.threads there) move
  · refine ⟨u, rfl, (List.getElem?_set_ne same).trans thread, status.frame ?_⟩
    rw [own_map, if_neg same]

/-- The subscriptions that a publish hands its message to, given what its thread does next. -/
def handed : List Action → List Subscription
  | .invoked _ x :: rest => x :: handed rest
  | .mismatched _ x :: _ => [x]
  | _ => []

/-- The subscription whose mailbox put an end to a publish. -/
def stopper? : List Action → Option Subscription
  | .invoked _ _ :: rest => stopper? rest
  | .stopped _ x :: _ => some x
  | .mismatched _ x :: _ => some x
  | _ => none

theorem handed_append (m : Message) (front : List Subscription) (rest : List Action) :
    handed (front.map (.invoked m) ++ rest) = front ++ handed rest := by
  induction front with
  | nil => rfl
  | cons x front ih => exact congrArg (x :: ·) ih

theorem stopper?_append (m : Message) (front : List Subscription) (rest : List Action) :
    stopper? (front.map (.invoked m) ++ rest) = stopper? rest := by
  induction front with
  | nil => rfl
  | cons x front ih => exact ih

theorem Gone.handed {rest : List Action} (h : Gone rest t) : handed rest = [] := by
  cases h with
  | still calm => rfl
  | @again a rest t other => cases a <;> simp_all [Concurrency.handed, Action.isGiving]

/-- A publish that ends at a mailbox was handed to that one last. -/
theorem cut_short (m : Message) {front back : List Subscription} {x : Subscription}
    (tail : List Action) (parts : L = front ++ x :: back) (hands : handed tail = [x])
    (stops : stopper? tail = some x) :
    L = handed (front.map (.invoked m) ++ tail) ++ back ∧
      handed (front.map (.invoked m) ++ tail) = front ++ [x] ∧
      stopper? (front.map (.invoked m) ++ tail) = some x := by
  rw [handed_append, stopper?_append, hands, parts]
  exact ⟨by simp, rfl, stops⟩

/-- What was found is what was handed to and what is left, and something is left only while the
thread still delivers, or if the last one that was handed to put an end to it. -/
theorem Giving.parts {done : List Action} (h : Giving m L done t) :
    ∃ left, L = handed done ++ left ∧
      (left = [] ∨ t.stage = .delivering m left ∨
        ∃ front x, handed done = front ++ [x] ∧ stopper? done = some x) := by
  cases h with
  | delivering front left calls parts some_found =>
    have all : handed (front.map (.invoked m)) = front := by
      simpa [handed] using handed_append m front []
    exact ⟨left, by rw [all, parts], .inr (.inl rfl)⟩
  | @past ended rest t done gone =>
    cases done with
    | returned nothing => exact ⟨[], by rw [nothing]; rfl, .inl rfl⟩
    | delivered some_found =>
      refine ⟨[], ?_, .inl rfl⟩
      rw [handed_append, gone.handed, List.append_nil, List.append_nil]
    | stopped front x back parts =>
      obtain ⟨all, last, stops⟩ :=
        cut_short m ([.invoked m x, .stopped m x] ++ rest) parts rfl rfl
      rw [List.append_assoc]
      exact ⟨back, all, .inr (.inr ⟨front, x, last, stops⟩)⟩
    | mismatched front x back parts =>
      obtain ⟨all, last, stops⟩ := cut_short m ([.mismatched m x] ++ rest) parts rfl rfl
      rw [List.append_assoc]
      exact ⟨back, all, .inr (.inr ⟨front, x, last, stops⟩)⟩

/-- A publish that found something does not return its message. -/
theorem Giving.not_returned {done : List Action} (h : Giving m L done t) (some_found : L ≠ []) :
    done.head? ≠ some (.returned m) := by
  intro first
  cases h with
  | delivering front left calls parts => cases front <;> simp at first
  | past ended gone =>
    cases ended with
    | returned nothing => exact some_found nothing
    | delivered _ =>
      obtain ⟨x, L, rfl⟩ := List.exists_cons_of_ne_nil some_found
      simp at first
    | stopped front x back parts => cases front <;> simp at first
    | mismatched front x back parts => cases front <;> simp at first

theorem live_sublist (events : List Event) : List.Sublist (live events) (entered events) := by
  induction events using List.reverseRecOn with
  | nil => exact List.Sublist.refl _
  | append_singleton events e ih =>
    rw [live_append, entered_append]
    obtain ⟨j, a⟩ := e
    cases a with
    | appended x => exact ih.append (List.Sublist.refl _)
    | removed x => exact (List.erase_sublist).trans (ih.trans (List.sublist_append_left _ _))
    | _ => exact ih.trans (List.sublist_append_left _ _)

/-- Of some findings, type by type, only those for one type count for what belongs to it. -/
theorem countP_all {found : Findings} (distinct : (found.map (·.1)).Nodup)
    (typed : ∀ p ∈ found, ∀ x ∈ p.2, x.mailbox.tag = p.1) {p : Tag × List Subscription}
    (hp : p ∈ found) {q : Subscription → Bool} (hq : ∀ x, q x = true → x.mailbox.tag = p.1) :
    found.all.countP q = p.2.countP q := by
  induction found with
  | nil => simp at hp
  | cons first found ih =>
    obtain ⟨fresh, tail⟩ := List.nodup_cons.mp distinct
    have rest := fun p hp => typed p (List.mem_cons_of_mem _ hp)
    rw [Findings.all, List.flatMap_cons, List.countP_append]
    rcases List.mem_cons.mp hp with rfl | hp
    · have none_else : (found.flatMap (·.2)).countP q = 0 := by
        refine List.countP_eq_zero.mpr fun x hx hqx => ?_
        obtain ⟨p', hp', hx⟩ := List.mem_flatMap.mp hx
        refine fresh (List.mem_map.mpr ⟨p', hp', ?_⟩)
        rw [← rest p' hp' x hx, hq x hqx]
      rw [none_else, Nat.add_zero]
    · have none_here : first.2.countP q = 0 := by
        refine List.countP_eq_zero.mpr fun x hx hqx => ?_
        refine fresh (List.mem_map.mpr ⟨p, hp, ?_⟩)
        exact (hq x hqx).symm.trans (typed first List.mem_cons_self x hx)
      rw [none_here, Nat.zero_add]
      exact ih tail rest hp

section found

variable {window : List Event} {found : Findings} {x : Subscription}

theorem Looked.typed (looked : Looked i m earlier window found) :
    ∀ p ∈ found, ∀ x ∈ p.2, x.mailbox.tag = p.1 := by
  intro p hp x hx
  obtain ⟨moment, -, list⟩ := looked.moment p hp
  rw [list] at hx
  exact (Roll.mem_listFor.mp hx).2

theorem Looked.nodup (looked : Looked i m earlier window found)
    (distinct : (entered (earlier ++ window)).Nodup) {p : Tag × List Subscription}
    (hp : p ∈ found) : p.2.Nodup := by
  obtain ⟨moment, ⟨rest, within⟩, list⟩ := looked.moment p hp
  rw [← within, ← List.append_assoc, entered_append] at distinct
  have once : (live (earlier ++ moment)).Nodup :=
    (live_sublist _).nodup (List.nodup_append.mp distinct).1
  rw [list]
  exact once.filter _

/-- What was found was live at some moment. -/
theorem Looked.exists_live (looked : Looked i m earlier window found) (hx : x ∈ found.all) :
    ∃ p, p <+: window ∧ x ∈ live (earlier ++ p) := by
  obtain ⟨p, hp, hx⟩ := List.mem_flatMap.mp hx
  obtain ⟨moment, within, list⟩ := looked.moment p hp
  rw [list] at hx
  exact ⟨moment, within, (Roll.mem_listFor.mp hx).1⟩

/-- What is live all the time is found when its type is looked up. -/
theorem Looked.exists_of_live (looked : Looked i m earlier window found)
    (belongs : x.mailbox.tag ∈ found.map (·.1))
    (lives : ∀ p, p <+: window → x ∈ live (earlier ++ p)) :
    ∃ p ∈ found, p.1 = x.mailbox.tag ∧ x ∈ p.2 := by
  obtain ⟨p, hp, tag⟩ := List.mem_map.mp belongs
  obtain ⟨moment, within, list⟩ := looked.moment p hp
  refine ⟨p, hp, tag, ?_⟩
  rw [list]
  exact Roll.mem_listFor.mpr ⟨lives moment within, tag.symm⟩

/-- What is live all the time is found once. -/
theorem Looked.count_eq_one (looked : Looked i m earlier window found)
    (apart : (found.map (·.1)).Nodup) (distinct : (entered (earlier ++ window)).Nodup)
    (belongs : x.mailbox.tag ∈ found.map (·.1))
    (lives : ∀ p, p <+: window → x ∈ live (earlier ++ p)) : found.all.count x = 1 := by
  obtain ⟨p, hp, tag, hx⟩ := looked.exists_of_live belongs lives
  have typed : ∀ y, (y == x) = true → y.mailbox.tag = p.1 := by
    intro y hy
    rw [eq_of_beq hy, tag]
  rw [List.count, countP_all apart looked.typed hp typed, ← List.count]
  exact List.count_eq_one_of_mem (looked.nodup distinct hp) hx

/-- A mailbox with one and the same subscription all the time is found once. -/
theorem Looked.countOf_eq_one (looked : Looked i m earlier window found)
    (apart : (found.map (·.1)).Nodup) (distinct : (entered (earlier ++ window)).Nodup)
    (belongs : x.mailbox.tag ∈ found.map (·.1))
    (lives : ∀ p, p <+: window → x ∈ live (earlier ++ p) ∧
      ∀ y ∈ live (earlier ++ p), y.mailbox.key = x.mailbox.key → y = x) :
    Roll.countOf found.all x.mailbox.key = 1 := by
  rw [← looked.count_eq_one apart distinct belongs fun p hp => (lives p hp).1, Roll.countOf,
    List.count]
  refine List.countP_congr fun y hy => ?_
  obtain ⟨q, hq, hy⟩ := List.mem_flatMap.mp hy
  obtain ⟨moment, within, list⟩ := looked.moment q hq
  rw [list] at hy
  have only := (lives moment within).2 y (Roll.mem_listFor.mp hy).1
  simp only [decide_eq_true_eq, beq_iff_eq]
  exact ⟨only, fun e => by rw [e]⟩

end found

/-- What a publish has come to once it has looked up every type. The window lasts from its first to
its last look; what it found is what it has handed its message to, and what is left. -/
structure Delivered (i : Nat) (m : Message) (earlier before window after : List Event)
    (found : Findings) (left : List Subscription) (u : Thread) : Prop where
  quiet : own i before = []
  looked : Looked i m (earlier ++ before) window found
  tags : found.map (·.1) = m.ancestry
  parts : found.all = handed (own i after) ++ left
  /-- Something is left only while the thread still delivers, or after a fatal refusal or a panic of
  the last mailbox that was handed the message. -/
  ends : left = [] ∨ u.stage = .delivering m left ∨ (∃ routes, u.stage = .looking m [] routes) ∨
    ∃ front x, handed (own i after) = front ++ [x] ∧ stopper? (own i after) = some x
  /-- What matches and is live all the time is handed the message once. -/
  throughout : ∀ x : Subscription, x.mailbox.tag ∈ m.ancestry →
    (∀ p, p <+: window → x ∈ live (earlier ++ before ++ p)) →
      (handed (own i after)).count x + left.count x = 1 ∧
        (own i after).head? ≠ some (.returned m)
  /-- What is live at no time is not handed the message. -/
  never : ∀ x : Subscription, (∀ p, p <+: window → x ∉ live (earlier ++ before ++ p)) →
    x ∉ handed (own i after)
  /-- A mailbox with one and the same subscription all the time is handed the message once. -/
  alone : ∀ x : Subscription, x.mailbox.tag ∈ m.ancestry →
    (∀ p, p <+: window → x ∈ live (earlier ++ before ++ p) ∧
      ∀ y ∈ live (earlier ++ before ++ p), y.mailbox.key = x.mailbox.key → y = x) →
    Roll.countOf (handed (own i after)) x.mailbox.key + Roll.countOf left x.mailbox.key = 1

theorem Looked.delivered {before window after : List Event} {found : Findings}
    {left : List Subscription} {u : Thread} (looked : Looked i m (earlier ++ before) window found)
    (quiet : own i before = []) (tags : found.map (·.1) = m.ancestry)
    (distinct : (entered (earlier ++ before ++ window)).Nodup)
    (parts : found.all = handed (own i after) ++ left)
    (ends : left = [] ∨ u.stage = .delivering m left ∨ (∃ routes, u.stage = .looking m [] routes) ∨
      ∃ front x, handed (own i after) = front ++ [x] ∧ stopper? (own i after) = some x)
    (kept : found.all ≠ [] → (own i after).head? ≠ some (.returned m)) :
    Delivered i m earlier before window after found left u := by
  have apart : (found.map (·.1)).Nodup := tags ▸ m.tag.nodup_lineage
  refine ⟨quiet, looked, tags, parts, ends, ?_, ?_, ?_⟩
  · intro x belongs lives
    rw [← tags] at belongs
    have once := looked.count_eq_one apart distinct belongs lives
    have some_found : found.all ≠ [] := by
      intro nothing
      rw [nothing] at once
      simp at once
    rw [parts, List.count_append] at once
    exact ⟨once, kept some_found⟩
  · intro x dead mem
    have inside : x ∈ found.all := by
      rw [parts]
      exact List.mem_append_left _ mem
    obtain ⟨moment, within, alive⟩ := looked.exists_live inside
    exact dead moment within alive
  · intro x belongs lives
    rw [← tags] at belongs
    have once := looked.countOf_eq_one apart distinct belongs lives
    rw [parts, Roll.countOf, List.countP_append] at once
    exact once

/-- A publish is done with its looks, or has not looked up every type yet. -/
theorem Status.reached {u : Thread} (status : Status i m calls earlier since u)
    (distinct : (entered (earlier ++ since)).Nodup) :
    (u.isDone = false ∧ ∃ found : Findings, found.map (·.1) <+: m.ancestry ∧
        found.map (·.1) ≠ m.ancestry ∧ own i since = found.map fun p => .looked m p.1 p.2) ∨
      ∃ before window after found left, since = before ++ window ++ after ∧
        Delivered i m earlier before window after found left u := by
  have seen {before window after : List Event} (parts : since = before ++ window ++ after) :
      (entered (earlier ++ before ++ window)).Nodup := by
    rw [parts, ← List.append_assoc, ← List.append_assoc, entered_append] at distinct
    exact (List.nodup_append.mp distinct).1
  have unsearched (quiet : own i since = []) : ∃ found : Findings, found.map (·.1) <+: m.ancestry ∧
      found.map (·.1) ≠ m.ancestry ∧ own i since = found.map fun p => .looked m p.1 p.2 :=
    ⟨[], List.nil_prefix, Ne.symm m.tag.lineage_ne_nil, quiet⟩
  cases status with
  | called quiet => exact .inl ⟨rfl, unsearched quiet⟩
  | unresolved quiet => exact .inl ⟨rfl, unsearched quiet⟩
  | computed c chain quiet => exact .inl ⟨rfl, unsearched quiet⟩
  | @looking before window after parts quiet quiet' found looked left tags routes same filled =>
    cases left with
    | cons t left =>
      have more : found.map (·.1) ≠ m.ancestry := by
        intro all
        rw [← all] at tags
        simp at tags
      have looks : own i since = found.map fun p => .looked m p.1 p.2 := by
        rw [parts, own_append, own_append, quiet, quiet', looked.looks]
        simp
      exact .inl ⟨rfl, found, ⟨t :: left, tags⟩, more, looks⟩
    | nil =>
      rw [List.append_nil] at tags
      refine .inr ⟨before, window, after, found, found.all, parts, ?_⟩
      refine looked.delivered quiet tags (seen parts) ?_ (.inr (.inr (.inl ⟨routes, rfl⟩))) ?_
      · rw [quiet']
        rfl
      · rw [quiet']
        simp
  | @giving before window after parts quiet found looked tags _ giving =>
    obtain ⟨left, all, ends⟩ := giving.parts
    refine .inr ⟨before, window, after, found, left, parts, ?_⟩
    refine looked.delivered quiet tags (seen parts) all ?_ giving.not_returned
    rcases ends with done | stage | stopped
    · exact .inl done
    · exact .inr (.inl stage)
    · exact .inr (.inr (.inr stopped))

/-- However other threads come between its steps, a publish is handed to every subscription of its
message that is live from its first to its last look, once, and to none that is live at no time in
between. Where no mailbox is blind, every mailbox that is handed a message sees it. No publish is
held up by other threads for ever: all of them can be brought to an end. -/
theorem publish_meets_live_subscriptions (stops : List Event → Message → Mailbox → Bool)
    (programs : List (List Call)) (first later : List Nat) (i : Nat) (m : Message)
    (calls : List Call) (call : ((Fleet.starting stops programs).run first).threads[i]? =
      some ⟨.idle, .publish m :: calls⟩) :
    let f := (Fleet.starting stops programs).run first
    let g := f.run later
    (∀ t, g.shared.registry.listFor t = (live g.shared.events).listFor t) ∧
    (∃ more, ∀ u ∈ (g.run more).threads, u.isDone = true) ∧
    ((∀ program ∈ programs, ∀ x, .subscribe x ∈ program → x.target.blind = false) →
      ∀ j n x, (j, .mismatched n x) ∉ g.shared.events) ∧
    ∃ since u, g.shared.events = f.shared.events ++ since ∧ g.threads[i]? = some u ∧
      ((u.isDone = false ∧ ∃ found : Findings, found.map (·.1) <+: m.ancestry ∧
          found.map (·.1) ≠ m.ancestry ∧ own i since = found.map fun p => .looked m p.1 p.2) ∨
        ∃ before window after found left, since = before ++ window ++ after ∧
          Delivered i m f.shared.events before window after found left u) := by
  intro f g
  obtain ⟨regular, since, u, now, thread, status⟩ :=
    status_run (regular_run stops programs first) call later
  refine ⟨regular.kept.lists.listFor, g.exists_all_done, fun sighted => ?_, since, u, now, thread,
    ?_⟩
  · have seeing : ∀ program ∈ programs, ∀ call ∈ program, call.Sighted := by
      intro program hp call hc
      cases call with
      | subscribe x => exact sighted program hp x hc
      | unsubscribe | publish => trivial
    have matched := (sighted_run stops seeing (first ++ later)).matched
    rwa [Fleet.run_append] at matched
  have distinct : (entered (f.shared.events ++ since)).Nodup := by
    rw [← now]
    exact regular.numbered.nodup
  exact status.reached distinct

/-- A thread that subscribes a mailbox and then publishes, while another one subscribes and
unsubscribes a mailbox of its own. -/
def passingBy : Fleet :=
  Fleet.starting (fun _ _ _ => false)
    [[.subscribe { id := 0, name := "stable", target := { tag := .root } },
        .publish (.top "Dog" default)],
      [.subscribe { id := 1, name := "passing", target := { tag := .child "Dog" .root } },
        .unsubscribe { id := 1, name := "passing", target := { tag := .child "Dog" .root } }]]

theorem publish_meets_live_subscriptions_passingBy :
    (passingBy.run [0, 0]).threads[0]? = some ⟨.idle, [.publish (.top "Dog" default)]⟩ ∧
    (∀ j n x, (j, .mismatched n x) ∉
      ((passingBy.run [0, 0]).run [0, 0, 0, 0, 1, 1, 0, 1, 0, 0, 0, 0]).shared.events) ∧
    ∃ since before window after found left u,
      ((passingBy.run [0, 0]).run [0, 0, 0, 0, 1, 1, 0, 1, 0, 0, 0, 0]).shared.events =
        (passingBy.run [0, 0]).shared.events ++ since ∧
      since = before ++ window ++ after ∧
      Delivered 0 (.top "Dog" default) (passingBy.run [0, 0]).shared.events before window after
        found left u := by
  have call : (passingBy.run [0, 0]).threads[0]? =
      some ⟨.idle, [.publish (.top "Dog" default)]⟩ := rfl
  have done : ((passingBy.run [0, 0]).run [0, 0, 0, 0, 1, 1, 0, 1, 0, 0, 0, 0]).threads[0]?.all
      Thread.isDone = true := by decide +kernel
  obtain ⟨-, -, matched, since, u, now, thread, status⟩ :=
    publish_meets_live_subscriptions _ _ [0, 0] [0, 0, 0, 0, 1, 1, 0, 1, 0, 0, 0, 0] 0 _ _ call
  obtain ⟨busy, -⟩ | ⟨before, window, after, found, left, parts, met⟩ := status
  · rw [passingBy, thread, Option.all_some, busy] at done
    simp at done
  · exact ⟨call, matched (by simp), since, before, window, after, found, left, u, now, parts, met⟩

end MessageBus.Concurrency
