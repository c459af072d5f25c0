import Mathlib.Data.List.Forall2
import Mathlib.Data.List.Induction
import Narrative.Build
import Narrative.Proofs.Session.Call
import Narrative.Session.Subscription

/-!
# Who hears what

A host subscribes and unsubscribes between its calls. A subscription stands from when it was made
until it is ended, and those that stand are the ones that hear of what happens, each of every event
of its kind. All this rests on identifiers that tell subscriptions apart, and so on there being
fewer than 2^64 of them: `Hosted.Room` says so.

* **`Subscriptions.roll_unsubscribe`** — although the kinds of events are tried in turn, a
  subscription is ended wherever it is, and no other one.
* **`Hosted.ordered_serve`** — while there is room, every request keeps the identifiers of all kinds
  apart.
* **`Hosted.mem_roll_iff`** — the lists hold the subscriptions that stand.
* **`Hosted.standing_subscribers_hear`** — what is heard, and that hearing changes nothing.
-/

namespace Narrative

variable {σ : Type}

/-! ## Ending a subscription -/

namespace Subscriptions

variable {subs : Subscriptions σ} {bound : Nat} {id : UInt64} {kind : EventKind}
  {kinds : List EventKind}

/-- No two subscriptions have the same identifier, and those of a kind have theirs in order. All
identifiers are below a bound, and the next one is what the bound is as a number of 64 bits. -/
structure Ordered (subs : Subscriptions σ) (bound : Nat) : Prop where
  increasing : ∀ kind, (subs.roll kind).Pairwise (·.id < ·.id)
  apart : ∀ kind other, ∀ sub ∈ subs.roll kind, ∀ sub' ∈ subs.roll other, sub.id = sub'.id →
    kind = other
  below : ∀ kind, ∀ sub ∈ subs.roll kind, sub.id.toNat < bound
  next : subs.next = .ofNat bound

/-- The list of a kind is the one that was set. -/
@[simp] theorem roll_setRoll_self (subs : Subscriptions σ) (kind : EventKind)
    (roll : List (Subscription σ)) : (subs.setRoll kind roll).roll kind = roll := if_pos rfl

/-- Setting the list of one kind leaves those of the others alone. -/
theorem roll_setRoll_of_ne {other : EventKind} (h : other ≠ kind) (roll : List (Subscription σ)) :
    (subs.setRoll kind roll).roll other = subs.roll other := if_neg h

/-- Nothing is removed exactly if no subscription has the id. -/
theorem filter_id_eq_self {roll : List (Subscription σ)} :
    (roll.filter (·.id != id)) = roll ↔ ∀ sub ∈ roll, sub.id ≠ id := by
  simp [List.filter_eq_self]

/-- Kinds of which no subscription has the identifier are passed over. -/
theorem unsubscribeAmong_of_absent (h : ∀ kind ∈ kinds, ∀ sub ∈ subs.roll kind, sub.id ≠ id) :
    subs.unsubscribeAmong id kinds = (false, subs) := by
  induction kinds with
  | nil => rfl
  | cons kind kinds ih =>
      obtain ⟨hkind, hkinds⟩ := List.forall_mem_cons.mp h
      rw [unsubscribeAmong, if_pos (by rw [filter_id_eq_self.mpr hkind]), ih hkinds]

/-- The kind with the identifier is found, as no other one has it. -/
theorem unsubscribeAmong_of_mem (hkind : kind ∈ kinds) {sub : Subscription σ}
    (hsub : sub ∈ subs.roll kind)
    (honly : ∀ other ∈ kinds, ∀ sub' ∈ subs.roll other, sub'.id = sub.id → other = kind) :
    subs.unsubscribeAmong sub.id kinds =
      (true, subs.setRoll kind ((subs.roll kind).filter (·.id != sub.id))) := by
  induction kinds with
  | nil => nomatch hkind
  | cons first kinds ih =>
      rw [unsubscribeAmong]
      split
      · -- the list of this kind kept its length, so the subscription is not in it
        rename_i hkept
        have hnone := filter_id_eq_self.mp (List.filter_sublist.eq_of_length hkept)
        have hne : kind ≠ first := by
          rintro rfl
          exact hnone sub hsub rfl
        exact ih ((List.mem_cons.mp hkind).resolve_left hne)
          fun other hother => honly other (List.mem_cons_of_mem _ hother)
      · rename_i hleft
        have hsome : ¬ ∀ sub' ∈ subs.roll first, sub'.id ≠ sub.id := fun hnone =>
          hleft (by rw [filter_id_eq_self.mpr hnone])
        simp only [not_forall, ne_eq, not_not] at hsome
        obtain ⟨sub', hsub', heq⟩ := hsome
        rw [honly first List.mem_cons_self sub' hsub' heq]

/-- Every kind of event is looked at when a subscription is removed. -/
theorem mem_all (kind : EventKind) : kind ∈ EventKind.all := by cases kind <;> decide

/-- **A subscription is ended wherever it is, and no other one.** -/
theorem unsubscribe_of_mem (h : subs.Ordered bound) {sub : Subscription σ}
    (hsub : sub ∈ subs.roll kind) :
    subs.unsubscribe sub.id =
      (true, subs.setRoll kind ((subs.roll kind).filter (·.id != sub.id))) :=
  unsubscribeAmong_of_mem (mem_all kind) hsub fun other _ sub' hsub' heq =>
    h.apart other kind sub' hsub' sub hsub heq

/-- Removing an id that no subscription has changes nothing and says so. -/
theorem unsubscribe_of_absent (h : ∀ kind, ∀ sub ∈ subs.roll kind, sub.id ≠ id) :
    subs.unsubscribe id = (false, subs) :=
  unsubscribeAmong_of_absent fun kind _ => h kind

/-- An id is that of a subscription, or of none. -/
theorem exists_or_absent (subs : Subscriptions σ) (id : UInt64) :
    (∃ kind, ∃ sub ∈ subs.roll kind, sub.id = id) ∨
      ∀ kind, ∀ sub ∈ subs.roll kind, sub.id ≠ id := by
  by_cases h : ∃ kind, ∃ sub ∈ subs.roll kind, sub.id = id
  · exact .inl h
  · exact .inr fun kind sub hsub heq => h ⟨kind, sub, hsub, heq⟩

/-- Whether a subscription is ended, every list keeps what has another identifier. -/
theorem roll_unsubscribe (h : subs.Ordered bound) (id : UInt64) (kind : EventKind) :
    (subs.unsubscribe id).2.roll kind = (subs.roll kind).filter (·.id != id) := by
  rcases exists_or_absent subs id with ⟨found, sub, hsub, rfl⟩ | habsent
  · rw [unsubscribe_of_mem h hsub]
    by_cases heq : kind = found
    · rw [heq, roll_setRoll_self]
    · rw [roll_setRoll_of_ne heq, filter_id_eq_self.mpr]
      exact fun sub' hsub' hid => heq (h.apart kind found sub' hsub' sub hsub hid)
  · rw [unsubscribe_of_absent habsent, filter_id_eq_self.mpr (habsent kind)]

/-- Ending a subscription gives no identifier back: the next one stays what it was. -/
theorem next_unsubscribe (h : subs.Ordered bound) (id : UInt64) :
    (subs.unsubscribe id).2.next = subs.next := by
  rcases exists_or_absent subs id with ⟨found, sub, hsub, rfl⟩ | habsent
  · rw [unsubscribe_of_mem h hsub]
    rfl
  · rw [unsubscribe_of_absent habsent]

/-- A host is told that a subscription was ended if there was one. -/
theorem unsubscribe_true_iff (h : subs.Ordered bound) (id : UInt64) :
    (subs.unsubscribe id).1 = true ↔ ∃ kind, ∃ sub ∈ subs.roll kind, sub.id = id := by
  rcases exists_or_absent subs id with ⟨found, sub, hsub, rfl⟩ | habsent
  · rw [unsubscribe_of_mem h hsub]
    exact ⟨fun _ => ⟨found, sub, hsub, rfl⟩, fun _ => rfl⟩
  · rw [unsubscribe_of_absent habsent]
    refine ⟨nofun, fun ⟨kind, sub, hsub, heq⟩ => ?_⟩
    exact absurd heq (habsent kind sub hsub)

/-! ## The lists stay in order -/

/-- A subscription is appended to the list of its kind. -/
theorem roll_subscribe (subs : Subscriptions σ) (kind : EventKind) (subscriber : σ)
    (other : EventKind) :
    (subs.subscribe kind subscriber).2.roll other =
      if other = kind then subs.roll kind ++ [⟨subs.next, subscriber⟩] else subs.roll other := rfl

/-- The subscriptions are the old ones and the new one. -/
theorem mem_roll_subscribe {subscriber : σ} {other : EventKind} {sub : Subscription σ} :
    sub ∈ (subs.subscribe kind subscriber).2.roll other ↔
      sub ∈ subs.roll other ∨ (other = kind ∧ sub = ⟨subs.next, subscriber⟩) := by
  rw [roll_subscribe]
  split
  · rename_i heq
    rw [List.mem_append, List.mem_singleton, heq]
    exact or_congr Iff.rfl ⟨fun hnew => ⟨rfl, hnew⟩, And.right⟩
  · rename_i hne
    exact ⟨.inl, fun h => h.resolve_right fun hnew => hne hnew.1⟩

namespace Ordered

/-- Without subscriptions nothing is out of order. -/
theorem fresh (first : UInt64) : Ordered ({ next := first } : Subscriptions σ) first.toNat where
  increasing _ := .nil
  apart _ _ _ hsub := nomatch hsub
  below _ _ hsub := nomatch hsub
  next := UInt64.ofNat_toNat.symm

/-- While there is room, the next identifier is the bound itself: the count has not started over. -/
theorem toNat_next (h : subs.Ordered bound) (hroom : bound < UInt64.size) :
    subs.next.toNat = bound := by
  rw [h.next]
  exact UInt64.toNat_ofNat_of_lt' hroom

/-- While there is room, every identifier is below the next one. -/
theorem lt_next (h : subs.Ordered bound) (hroom : bound < UInt64.size) {sub : Subscription σ}
    (hsub : sub ∈ subs.roll kind) : sub.id < subs.next := by
  rw [UInt64.lt_iff_toNat_lt, h.toNat_next hroom]
  exact h.below kind sub hsub

/-- Taking an identifier moves the bound on by one. -/
theorem next_add_one (h : subs.Ordered bound) : subs.next + 1 = .ofNat (bound + 1) := by
  rw [h.next, UInt64.ofNat_add]
  rfl

/-- As long as there is room, the next id is above all that were given, so a new subscription keeps
the order. -/
theorem subscribe (h : subs.Ordered bound) (hroom : bound < UInt64.size) (kind : EventKind)
    (subscriber : σ) : (subs.subscribe kind subscriber).2.Ordered (bound + 1) := by
  -- the next id is above all that were given, as the count has not started over
  have hnew : ∀ other, ∀ sub ∈ subs.roll other, sub.id ≠ subs.next :=
    fun other sub hsub => UInt64.ne_of_lt (h.lt_next hroom hsub)
  refine ⟨fun other => ?_, fun one other sub hsub sub' hsub' heq => ?_, fun other sub hsub => ?_,
    h.next_add_one⟩
  · rw [roll_subscribe]
    split
    · refine List.pairwise_append.mpr ⟨h.increasing kind, List.pairwise_singleton .., ?_⟩
      intro sub hsub sub' hsub'
      obtain rfl := List.mem_singleton.mp hsub'
      exact h.lt_next hroom hsub
    · exact h.increasing other
  · -- two subscriptions with one id are both old, or both the new one
    rcases mem_roll_subscribe.mp hsub with hold | ⟨hone, rfl⟩
    · rcases mem_roll_subscribe.mp hsub' with hold' | ⟨-, rfl⟩
      · exact h.apart one other sub hold sub' hold' heq
      · exact absurd heq (hnew one sub hold)
    · rcases mem_roll_subscribe.mp hsub' with hold' | ⟨hother, -⟩
      · exact absurd heq.symm (hnew other sub' hold')
      · exact hone.trans hother.symm
  · rcases mem_roll_subscribe.mp hsub with hold | ⟨-, rfl⟩
    · exact Nat.lt_succ_of_lt (h.below other sub hold)
    · exact Nat.lt_succ_of_le (Nat.le_of_eq (h.toNat_next hroom))

/-- Removing subscriptions keeps the others in order. -/
theorem unsubscribe (h : subs.Ordered bound) (id : UInt64) :
    (subs.unsubscribe id).2.Ordered bound := by
  have hold : ∀ kind, ∀ sub ∈ (subs.unsubscribe id).2.roll kind, sub ∈ subs.roll kind :=
    fun kind sub hsub => by
      rw [roll_unsubscribe h] at hsub
      exact (List.mem_filter.mp hsub).1
  refine ⟨fun kind => ?_, fun kind other sub hsub sub' hsub' =>
      h.apart kind other sub (hold kind sub hsub) sub' (hold other sub' hsub'),
    fun kind sub hsub => h.below kind sub (hold kind sub hsub), ?_⟩
  · rw [roll_unsubscribe h]
    exact (h.increasing kind).filter _
  · rw [next_unsubscribe h]
    exact h.next

end Ordered

end Subscriptions

/-! ## Requests -/

/-- What a host asks for, of a session and of those who listen to it. -/
inductive Request (σ : Type) where
  | subscribe (kind : EventKind) (subscriber : σ)
  | unsubscribe (id : UInt64)
  /-- A subscription to another session, which takes an identifier as well. -/
  | elsewhere
  | call (call : HostCall)

def Request.call? : Request σ → Option HostCall
  | .call asked => some asked
  | _ => none

/-- Whether an identifier is given for a request. -/
def Request.takesId : Request σ → Bool
  | .subscribe _ _ | .elsewhere => true
  | .unsubscribe _ | .call _ => false

/-- What a host gets for a request; the subscribers get what they are told. -/
inductive Response (σ : Type) where
  | subscribed (id : UInt64)
  | unsubscribed (found : Bool)
  | replied (result : Except SessionError Reply) (told : List (σ × Event))

def Response.id? : Response σ → Option UInt64
  | .subscribed id => some id
  | _ => none

def Response.result? : Response σ → Option (Except SessionError Reply)
  | .replied result _ => some result
  | _ => none

/-- A session with its subscribers. -/
structure Hosted (σ : Type) where
  state : State
  subscriptions : Subscriptions σ

namespace Hosted

open Subscriptions

/-- A session that was just made, when the next identifier is `first`. -/
def fresh (w : World) (first : UInt64) : Hosted σ := ⟨.initial w, { next := first }⟩

def serve (w : World) (hosted : Hosted σ) : Request σ → Response σ × Hosted σ
  | .subscribe kind subscriber =>
    let (id, subscriptions) := hosted.subscriptions.subscribe kind subscriber
    (.subscribed id, { hosted with subscriptions })
  | .unsubscribe id =>
    let (found, subscriptions) := hosted.subscriptions.unsubscribe id
    (.unsubscribed found, { hosted with subscriptions })
  | .elsewhere =>
    let next := hosted.subscriptions.next
    (.subscribed next,
      { hosted with subscriptions := { hosted.subscriptions with next := next + 1 } })
  | .call call =>
    let outcome := call.play w hosted.state
    (.replied outcome.result (hosted.subscriptions.deliver outcome.trace.events),
      { hosted with state := outcome.state })

def after (w : World) (hosted : Hosted σ) (history : List (Request σ)) : Hosted σ :=
  history.foldl (fun hosted request => (hosted.serve w request).2) hosted

def responses (w : World) (hosted : Hosted σ) : List (Request σ) → List (Response σ)
  | [] => []
  | request :: rest => (hosted.serve w request).1 :: (hosted.serve w request).2.responses w rest

/-- A subscription stands if it was made, and its identifier was not given back since then. -/
def Standing (w : World) (hosted : Hosted σ) (history : List (Request σ)) (kind : EventKind)
    (sub : Subscription σ) : Prop :=
  ∃ front back, history = front ++ .subscribe kind sub.subscriber :: back ∧
    ((hosted.after w front).serve w (.subscribe kind sub.subscriber)).1 = .subscribed sub.id ∧
    .unsubscribe sub.id ∉ back

variable {w : World} {first : UInt64} {hosted : Hosted σ} {history : List (Request σ)}
variable {kind : EventKind} {sub : Subscription σ} {bound : Nat}

/-- The last request meets what the others left. -/
theorem after_concat (w : World) (hosted : Hosted σ) (history : List (Request σ))
    (request : Request σ) :
    hosted.after w (history ++ [request]) = ((hosted.after w history).serve w request).2 := by
  rw [after, List.foldl_append]
  rfl

/-- The last request is answered by what the others left. -/
theorem responses_concat (w : World) (hosted : Hosted σ) (history : List (Request σ))
    (request : Request σ) :
    hosted.responses w (history ++ [request]) =
      hosted.responses w history ++ [((hosted.after w history).serve w request).1] := by
  induction history generalizing hosted with
  | nil => rfl
  | cons head rest ih =>
      rw [List.cons_append, responses, responses, ih, List.cons_append]
      rfl

/-- The last request makes a subscription, ends one, or leaves it as it is. -/
theorem standing_concat {request : Request σ} :
    Standing w hosted (history ++ [request]) kind sub ↔
      (Standing w hosted history kind sub ∧ request ≠ .unsubscribe sub.id) ∨
        (request = .subscribe kind sub.subscriber ∧
          ((hosted.after w history).serve w request).1 = .subscribed sub.id) := by
  constructor
  · rintro ⟨front, back, hhistory, hid, hback⟩
    -- the subscribing request is the last one, or the last one comes after it
    rcases List.eq_nil_or_concat back with rfl | ⟨back, last, rfl⟩
    · obtain ⟨rfl, hlast⟩ := List.append_inj' hhistory rfl
      obtain rfl := List.singleton_inj.mp hlast
      exact .inr ⟨rfl, hid⟩
    · rw [List.concat_eq_append] at hhistory hback
      rw [← List.cons_append, ← List.append_assoc] at hhistory
      obtain ⟨rfl, hlast⟩ := List.append_inj' hhistory rfl
      obtain rfl := List.singleton_inj.mp hlast
      rw [List.mem_append, List.mem_singleton, not_or] at hback
      exact .inl ⟨⟨front, back, rfl, hid, hback.1⟩, Ne.symm hback.2⟩
  · rintro (⟨⟨front, back, rfl, hid, hback⟩, hne⟩ | ⟨rfl, hid⟩)
    · refine ⟨front, back ++ [request], by simp, hid, ?_⟩
      rw [List.mem_append, List.mem_singleton, not_or]
      exact ⟨hback, Ne.symm hne⟩
    · exact ⟨history, [], rfl, hid, by simp⟩

/-! ## Every request keeps the lists in order -/

/-- A request for which an identifier is given, while there is one left, moves the bound on by one,
and every other request keeps it. -/
theorem ordered_serve (h : hosted.subscriptions.Ordered bound) (request : Request σ)
    (hroom : request.takesId = true → bound < UInt64.size) :
    (hosted.serve w request).2.subscriptions.Ordered
      (bound + if request.takesId then 1 else 0) := by
  cases request with
  | subscribe kind subscriber => exact h.subscribe (hroom rfl) kind subscriber
  | unsubscribe id => exact h.unsubscribe id
  | elsewhere =>
      exact ⟨h.increasing, h.apart,
        fun kind sub hsub => Nat.lt_succ_of_lt (h.below kind sub hsub), h.next_add_one⟩
  | call call => exact h

/-- There is room for the identifiers that the requests take, if the first one is `first`. -/
def Room (first : UInt64) (history : List (Request σ)) : Prop :=
  first.toNat + history.countP Request.takesId ≤ UInt64.size

/-- Where there was room up to the last request, there was room before it, and there is an
identifier left if it takes one. -/
theorem room_concat {request : Request σ} (h : Room first (history ++ [request])) :
    Room first history ∧ (request.takesId = true →
      first.toNat + history.countP Request.takesId < UInt64.size) := by
  rw [Room, List.countP_append, List.countP_singleton] at h
  refine ⟨?_, fun htakes => ?_⟩
  · rw [Room]
    omega
  · rw [if_pos htakes] at h
    omega

/-- The ids stay in order as long as there is room for them. -/
theorem ordered_after (w : World) (hroom : Room first history) :
    ((fresh w first).after w history).subscriptions.Ordered
      (first.toNat + history.countP Request.takesId) := by
  induction history using List.reverseRecOn with
  | nil => exact .fresh first
  | append_singleton history request ih =>
      obtain ⟨hbefore, hleft⟩ := room_concat hroom
      rw [after_concat, List.countP_append, List.countP_singleton, ← Nat.add_assoc]
      exact ordered_serve (ih hbefore) request hleft

/-- **The lists hold the subscriptions that stand.** -/
theorem mem_roll_iff (w : World) (hroom : Room first history) (kind : EventKind)
    (sub : Subscription σ) :
    sub ∈ ((fresh w first).after w history).subscriptions.roll kind ↔
      Standing w (fresh w first) history kind sub := by
  induction history using List.reverseRecOn with
  | nil =>
      refine ⟨nofun, ?_⟩
      rintro ⟨front, back, hhistory, -⟩
      simp at hhistory
  | append_singleton history request ih =>
      have hbefore := (room_concat hroom).1
      rw [after_concat, standing_concat, ← ih hbefore]
      cases request with
      | subscribe other subscriber =>
          refine mem_roll_subscribe.trans (or_congr ⟨fun hold => ⟨hold, nofun⟩, And.left⟩ ?_)
          constructor
          · rintro ⟨rfl, rfl⟩
            exact ⟨rfl, rfl⟩
          · rintro ⟨hrequest, hid⟩
            obtain ⟨rfl, rfl⟩ := Request.subscribe.inj hrequest
            have hnext := Response.subscribed.inj hid
            exact ⟨rfl, by rw [hnext]⟩
      | unsubscribe id =>
          change sub ∈ (Subscriptions.unsubscribe _ id).2.roll kind ↔ _
          rw [roll_unsubscribe (ordered_after w hbefore), List.mem_filter, bne_iff_ne]
          constructor
          · rintro ⟨hsub, hne⟩
            exact .inl ⟨hsub, fun heq => hne (Request.unsubscribe.inj heq).symm⟩
          · rintro (⟨hsub, hne⟩ | ⟨hrequest, -⟩)
            · exact ⟨hsub, fun heq => hne (heq ▸ rfl)⟩
            · nomatch hrequest
      -- other requests leave the lists alone and are no subscriptions
      | elsewhere => simp [serve]
      | call call => simp [serve]

/-! ## Identifiers -/

/-- A request is given the next identifier if it takes one, and none otherwise. -/
theorem id?_serve (w : World) (hosted : Hosted σ) (request : Request σ) :
    (hosted.serve w request).1.id? =
      if request.takesId then some hosted.subscriptions.next else none := by
  cases request <;> rfl

/-- While there is room, every identifier is higher than those that were given before it. -/
theorem ids_increasing (w : World) (hroom : Room first history) :
    (((fresh w first).responses w history).filterMap Response.id?).Pairwise (· < ·) ∧
      ∀ id ∈ ((fresh w first).responses w history).filterMap Response.id?,
        id.toNat < first.toNat + history.countP Request.takesId := by
  induction history using List.reverseRecOn with
  | nil => exact ⟨.nil, nofun⟩
  | append_singleton history request ih =>
      obtain ⟨hbefore, hleft⟩ := room_concat hroom
      obtain ⟨hincreasing, hbelow⟩ := ih hbefore
      have hid := id?_serve w ((fresh w first).after w history) request
      rw [responses_concat, List.filterMap_append, List.countP_append, List.countP_singleton]
      cases htakes : request.takesId with
      | true =>
          rw [htakes, if_pos rfl] at hid
          -- the new id is the number of ids given so far, counted from the first, and does not wrap
          have hnext := (ordered_after w hbefore).toNat_next (hleft htakes)
          rw [List.filterMap_cons_some hid, List.filterMap_nil, if_pos rfl, ← Nat.add_assoc]
          refine ⟨List.pairwise_append.mpr ⟨hincreasing, List.pairwise_singleton .., ?_⟩, ?_⟩
          · intro id hmem other hother
            obtain rfl := List.mem_singleton.mp hother
            rw [UInt64.lt_iff_toNat_lt, hnext]
            exact hbelow id hmem
          · intro id hmem
            rcases List.mem_append.mp hmem with hold | hnew
            · exact Nat.lt_succ_of_lt (hbelow id hold)
            · obtain rfl := List.mem_singleton.mp hnew
              exact Nat.lt_succ_of_le (Nat.le_of_eq hnext)
      | false =>
          rw [htakes] at hid
          rw [List.filterMap_cons_none hid, List.filterMap_nil, List.append_nil]
          exact ⟨hincreasing, hbelow⟩

/-! ## What is heard -/

/-- What every event is answered with when subscribers are told of them: each subscriber of its
kind hears it, in the order of the subscriptions. -/
theorem deliver_eq (subs : Subscriptions σ) (events : List Event) :
    ∃ told : List (List (σ × Event)), subs.deliver events = told.flatten ∧
      List.Forall₂ (fun event heard =>
        heard = (subs.roll event.kind).map fun sub => (sub.subscriber, event)) events told := by
  refine ⟨events.map fun event => (subs.roll event.kind).map fun sub => (sub.subscriber, event),
    ?_, ?_⟩
  · rw [Subscriptions.deliver, List.flatMap_def]
    simp only [Subscriptions.listeners, List.map_map, Function.comp_def]
  · rw [List.forall₂_map_right_iff]
    exact List.forall₂_same.mpr fun event _ => rfl

/-! ## What the session does -/

/-- The session does what it does when it is only called. -/
theorem playAll_eq (w : World) (hosted : Hosted σ) (history : List (Request σ)) :
    (HostCall.playAll (history.filterMap Request.call?) w hosted.state).result =
        .ok ((hosted.responses w history).filterMap Response.result?) ∧
      (HostCall.playAll (history.filterMap Request.call?) w hosted.state).state =
        (hosted.after w history).state := by
  induction history generalizing hosted with
  | nil => exact ⟨rfl, rfl⟩
  | cons request rest ih =>
      obtain ⟨hresult, hstate⟩ := ih (hosted.serve w request).2
      cases request with
      | call call =>
          -- only a call reaches the session, and it is played from the state that the others left
          have hcalls : (Request.call call :: rest).filterMap Request.call? =
              call :: rest.filterMap Request.call? := rfl
          have hrest : (HostCall.playAll (rest.filterMap Request.call?) w
              (call.play w hosted.state).state).result = _ := hresult
          rw [hcalls, HostCall.playAll_cons, hrest]
          exact ⟨rfl, hstate⟩
      | subscribe kind subscriber => exact ⟨hresult, hstate⟩
      | unsubscribe id => exact ⟨hresult, hstate⟩
      | elsewhere => exact ⟨hresult, hstate⟩

/-- What is in front of and behind the subscription with an identifier. -/
theorem roll_split (h : hosted.subscriptions.Ordered bound)
    (hsub : sub ∈ hosted.subscriptions.roll kind) :
    ∃ front back, hosted.subscriptions.roll kind = front ++ sub :: back ∧
      (hosted.serve w (.unsubscribe sub.id)).2 =
        { hosted with subscriptions := hosted.subscriptions.setRoll kind (front ++ back) } := by
  obtain ⟨front, back, hroll⟩ := List.append_of_mem hsub
  refine ⟨front, back, hroll, ?_⟩
  -- ids increase along the roll, so no other subscription has the one that is taken out
  have hincreasing := h.increasing kind
  rw [hroll, List.pairwise_append, List.pairwise_cons] at hincreasing
  obtain ⟨-, ⟨hback, -⟩, hfront⟩ := hincreasing
  have hfront' : front.filter (·.id != sub.id) = front := filter_id_eq_self.mpr fun sub' hsub' =>
    UInt64.ne_of_lt (hfront sub' hsub' sub List.mem_cons_self)
  have hback' : back.filter (·.id != sub.id) = back := filter_id_eq_self.mpr fun sub' hsub' =>
    (UInt64.ne_of_lt (hback sub' hsub')).symm
  have hleft : (hosted.subscriptions.roll kind).filter (·.id != sub.id) = front ++ back := by
    rw [hroll, List.filter_append, hfront', List.filter_cons_of_neg (by simp), hback']
  rw [serve, unsubscribe_of_mem h hsub, hleft]

/-- **What is heard, and that hearing changes nothing.** Whatever a host asked for before, as long
as the identifiers have not run out: every identifier is higher than those that were given before
it, so none is given twice. An identifier is given back exactly if a subscription with it stands,
and then that subscription is gone and every other one is where it was. Of a call, each
subscription that stands for the kind of an event hears that event once, in the order of the events
and of the subscriptions, and no other one does. Sessions that are called in the same way give the
same results and come to the same states, whoever listens to them and however many identifiers were
given. -/
theorem standing_subscribers_hear (w : World) (first : UInt64) (history : List (Request σ)) :
    let start : Hosted σ := fresh w first
    let hosted := start.after w history
    (first.toNat + history.countP Request.takesId ≤ UInt64.size →
      ((start.responses w history).filterMap Response.id?).Pairwise (· < ·) ∧
      (∀ id, ∃ found, (hosted.serve w (.unsubscribe id)).1 = .unsubscribed found ∧
        (found = true ↔ ∃ kind sub, Standing w start history kind sub ∧ sub.id = id) ∧
        (found = false → (hosted.serve w (.unsubscribe id)).2 = hosted)) ∧
      (∀ kind sub, Standing w start history kind sub → ∃ front back,
        hosted.subscriptions.roll kind = front ++ sub :: back ∧
        (hosted.serve w (.unsubscribe sub.id)).2 =
          { hosted with subscriptions := hosted.subscriptions.setRoll kind (front ++ back) }) ∧
      (∀ call, ∃ told : List (List (σ × Event)),
        (hosted.serve w (.call call)).1 =
          .replied (call.play w hosted.state).result told.flatten ∧
        List.Forall₂ (fun event heard => ∃ listening : List (Subscription σ),
            (∀ sub, sub ∈ listening ↔ Standing w start history event.kind sub) ∧
            listening.Pairwise (·.id < ·.id) ∧
            heard = listening.map fun sub => (sub.subscriber, event))
          (call.play w hosted.state).trace.events told)) ∧
    ∀ (τ : Type) (first' : UInt64) (history' : List (Request τ)),
      history'.filterMap Request.call? = history.filterMap Request.call? →
        ((fresh w first').responses w history').filterMap Response.result? =
            (start.responses w history).filterMap Response.result? ∧
          ((fresh w first').after w history').state = hosted.state := by
  intro start hosted
  refine ⟨fun hroom => ?_, fun τ first' history' h => ?_⟩
  · have hordered := ordered_after w hroom
    refine ⟨(ids_increasing w hroom).1, fun id => ?_, fun kind sub hsub => ?_, fun call => ?_⟩
    · refine ⟨(hosted.subscriptions.unsubscribe id).1, rfl, ?_, fun hnone => ?_⟩
      · rw [unsubscribe_true_iff hordered]
        exact exists_congr fun kind => exists_congr fun sub =>
          and_congr_left' (mem_roll_iff w hroom kind sub)
      · rw [serve, unsubscribe_of_absent]
        intro kind sub hsub heq
        have hfound := (unsubscribe_true_iff hordered id).mpr ⟨kind, sub, hsub, heq⟩
        rw [hnone] at hfound
        nomatch hfound
    · exact roll_split hordered ((mem_roll_iff w hroom kind sub).mpr hsub)
    · obtain ⟨told, htold, heach⟩ := deliver_eq hosted.subscriptions
        (call.play w hosted.state).trace.events
      refine ⟨told, by rw [serve, htold], heach.imp fun event heard hheard => ?_⟩
      exact ⟨_, mem_roll_iff w hroom event.kind, hordered.increasing event.kind, hheard⟩
  · -- the calls alone decide, and they are the same
    obtain ⟨hresult, hstate⟩ := playAll_eq w start history
    obtain ⟨hresult', hstate'⟩ := playAll_eq w (fresh w first') history'
    rw [h] at hresult' hstate'
    exact ⟨Except.ok.inj (hresult'.symm.trans hresult), hstate'.symm.trans hstate⟩

end Hosted

/-- Without room the identifiers start over. -/
example (w : World) :
    ((Hosted.fresh w (-1) : Hosted Unit).responses w [.elsewhere, .elsewhere]).filterMap
      Response.id? = [-1, 0] := by
  cbv

/-- A story of one screen, where there is something to hear. -/
def Quest.belfry : Quest where
  name := "belfry"
  start := "loft"
  screens := [{ name := some "loft" }]

/-- The ringer has left, so it is the owl that hears the bell, until it leaves as well. -/
theorem owl_hears_bell :
    let w : World := ⟨Quest.belfry.graph, {}⟩
    let history : List (Request String) :=
      [.subscribe .messageChanged "ringer", .subscribe .questFinished "sexton",
        .subscribe .messageChanged "owl", .unsubscribe 1]
    let hosted := (Hosted.fresh w 1).after w history
    (hosted.serve w (.unsubscribe 1)).1 = .unsubscribed false ∧
      (hosted.serve w (.unsubscribe 3)).1 = .unsubscribed true ∧
      (hosted.serve w (.unsubscribe 3)).2.subscriptions.roll .messageChanged = [] ∧
      (hosted.serve w (.call (.setMessage "Bong"))).1 =
        .replied (.ok .done) [("owl", .messageChanged "Bong")] := by
  intro w history hosted
  have hroom : (1 : UInt64).toNat + history.countP Request.takesId ≤ UInt64.size := by decide
  obtain ⟨-, hended, hremoved, -⟩ := (Hosted.standing_subscribers_hear w 1 history).1 hroom
  have howl : Hosted.Standing w (.fresh w 1) history .messageChanged ⟨3, "owl"⟩ :=
    ⟨[.subscribe .messageChanged "ringer", .subscribe .questFinished "sexton"], [.unsubscribe 1],
      rfl, rfl, by simp⟩
  obtain ⟨gone, hgone, -, -⟩ := hended 1
  obtain ⟨found, hfound, hiff, -⟩ := hended 3
  obtain rfl : gone = false := (Response.unsubscribed.inj hgone).symm
  obtain rfl : found = true := hiff.mpr ⟨_, _, howl, rfl⟩
  obtain ⟨front, back, hroll, hleft⟩ := hremoved _ _ howl
  -- the owl is alone on its list
  have hlength : front.length + (back.length + 1) = 1 := by
    rw [← List.length_cons, ← List.length_append, ← hroll]
    rfl
  obtain rfl : front = [] := List.eq_nil_of_length_eq_zero (by omega)
  obtain rfl : back = [] := List.eq_nil_of_length_eq_zero (by omega)
  exact ⟨hgone, hfound, by rw [hleft]; rfl, rfl⟩

end Narrative
