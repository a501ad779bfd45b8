import MessageBus.Mailbox.Delivery

namespace MessageBus

/-- One subscription of a mailbox to its target type. -/
structure Subscription where
  seq : Nat
  mailbox : Mailbox
  deriving DecidableEq, Inhabited

def Subscription.shape (s : Subscription) : Text.Shape :=
  .record "Subscription" [("seq", .nat s.seq), ("mailbox", s.mailbox.refShape)] true

/-- The subscriptions to one type at one moment. -/
structure Route where
  tag : Tag
  subscriptions : List Subscription
  deriving DecidableEq, Inhabited

def Route.shape (r : Route) : Text.Shape :=
  .record "Route"
    [("tag", r.tag.shape), ("subscriptions", .list (r.subscriptions.map (·.shape)))] true

/-- The subscriptions of a bus, listed by type. The list of a type begins with the latest. -/
structure Registry where
  routes : List (Tag × List Subscription) := []
  nextSeq : Nat := 0
  deriving Inhabited

namespace Registry

/-- The subscriptions to a type, in the order in which they were made. -/
def listFor (r : Registry) (t : Tag) : List Subscription :=
  (((r.routes.find? (·.1 == t)).map (·.2)).getD []).reverse

/-- The routes with the list of one type replaced; a type without a list gets a new one. -/
def setList (routes : List (Tag × List Subscription)) (t : Tag) (subs : List Subscription) :
    List (Tag × List Subscription) :=
  match routes with
  | [] => [(t, subs)]
  | (u, old) :: rest => if u = t then (t, subs) :: rest else (u, old) :: setList rest t subs

theorem find?_setList (routes : List (Tag × List Subscription)) (t u : Tag)
    (subs : List Subscription) :
    (setList routes t subs).find? (·.1 == u) =
      if u = t then some (t, subs) else routes.find? (·.1 == u) := by
  induction routes with
  | nil =>
    by_cases h : u = t
    · simp [setList, h]
    · simp [setList, h, Ne.symm h]
  | cons entry rest ih =>
    obtain ⟨tag, old⟩ := entry
    by_cases ht : tag = t
    · subst ht
      by_cases hu : u = tag
      · simp [setList, hu]
      · simp [setList, hu, Ne.symm hu]
    · by_cases hu : tag = u
      · have : ¬ u = t := fun h => ht (hu.trans h)
        simp [setList, hu, this]
      · simp [setList, ht, hu, ih]

def dropList (routes : List (Tag × List Subscription)) (t : Tag) :
    List (Tag × List Subscription) :=
  routes.filter fun entry => entry.1 ≠ t

def takeSeq (r : Registry) : Registry × Nat := ({ r with nextSeq := r.nextSeq + 1 }, r.nextSeq)

def append (r : Registry) (s : Subscription) : Registry :=
  let t := s.mailbox.tag
  let earlier := ((r.routes.find? (·.1 == t)).map (·.2)).getD []
  { r with routes := setList r.routes t (s :: earlier) }

theorem listFor_append (r : Registry) (s : Subscription) (t : Tag) :
    (r.append s).listFor t =
      if t = s.mailbox.tag then r.listFor t ++ [s] else r.listFor t := by
  by_cases h : t = s.mailbox.tag
  · simp [append, listFor, find?_setList, h]
  · simp [append, listFor, find?_setList, h]

def subscribe (r : Registry) (m : Mailbox) : Registry × Nat :=
  let (r, seq) := r.takeSeq
  (r.append { seq, mailbox := m }, seq)

/-- The first subscription of a mailbox in a list, and the list without it. -/
def takeFirst (id : MailboxId) : List Subscription → Option (Subscription × List Subscription)
  | [] => none
  | s :: rest =>
    if s.mailbox.id = id then some (s, rest)
    else (takeFirst id rest).map fun (found, left) => (found, s :: left)

def remove (r : Registry) (m : Mailbox) : Option (Registry × Subscription) :=
  (takeFirst m.id (r.listFor m.tag)).map fun (found, left) =>
    ({ r with routes := setList r.routes m.tag left.reverse }, found)

/-- Forgets a type whose list is empty. -/
def prune (r : Registry) (t : Tag) : Registry :=
  if r.listFor t = [] then { r with routes := dropList r.routes t } else r

/-- Removes the first subscription of a mailbox and answers it. -/
def unsubscribe (r : Registry) (m : Mailbox) : Except BusError (Registry × Subscription) :=
  match r.remove m with
  | none => .error (.notSubscribed m.name m.tag)
  | some (r, found) => .ok (r.prune m.tag, found)

def routeFor (r : Registry) (t : Tag) : Option Route :=
  match r.listFor t with
  | [] => none
  | s :: rest => some { tag := t, subscriptions := s :: rest }

/-- The routes of some types, in the order of the types. -/
def entriesFor (r : Registry) (tags : List Tag) : List Route := tags.filterMap r.routeFor

def countFor (r : Registry) (t : Tag) : Nat := (r.listFor t).length

/-- Every subscription, type by type. -/
def all (r : Registry) : List Subscription := r.routes.flatMap (·.2.reverse)

def size (r : Registry) : Nat := r.routes.foldr (fun entry n => entry.2.length + n) 0

def isEmpty (r : Registry) : Bool := r.routes.all fun entry => entry.2.isEmpty

/-- Removes every subscription and answers the lists that were removed. -/
def clear (r : Registry) : Registry × List (List Subscription) :=
  ({ r with routes := [] }, r.routes.map (·.2.reverse))

def shape (r : Registry) : Text.Shape :=
  .record "SubscriptionRegistry"
    [("types", .nat r.routes.length), ("subscription_count", .nat r.size)] true

end Registry

end MessageBus
