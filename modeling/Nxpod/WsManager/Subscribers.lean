import Nxpod.Library.Map
import Nxpod.Library.Parties
import Nxpod.Library.Transition

/-!
# Publishing Status Updates

`subscribe`, `publishToSubscribers` and `dropSubscriber` of ws-manager. Every
call of `subscribe` has a channel that is registered under a key, and takes one
update after the other from it to send it on. A publisher goes through the
registered channels under a read lock, in any order, and puts the update into
each that has room. The keys of the others it remembers, and when it has given
back the read lock it closes and removes what is registered under them, under the
write lock.

The keys are made from the peer's address and the time. Nothing is assumed about
them, so a call may be registered over another one.

The updates published since a call has subscribed are those that publishers come
to its channel with, in the order in which they come. The model keeps them for
every call, and whether one of them was refused.

## Main definitions

* `Phase`: A call serves its client, is about to return, or has returned.
* `Subscriber`, `Publisher`, `Manager`: The calls and the registered channels.
* `Action`: What can happen next.
* `step`: What can happen.
* `Gapless`, `Good`: What holds for every subscriber.
* `InTime`: The condition on a step.
* `Effect`: What a step can do, with what it asks for.
* `Safe`, `Whole`: The invariants.

## Theorems

* `effect_of_step`: What a step can do.
* `safe_dropOne`, `safe_offer`, `safe_step`: What registers and closes channels.
* `safe_of_reaches`: In every run no update is sent on a closed channel, and who
  refuses one is dropped.
* `whole_step`: What is sent and offered.
* `good_of_reaches`: What holds in the runs that meet the condition.
-/

namespace Nxpod

namespace WsManager

namespace Subscribers

open Transition Parties

variable {K U : Type}

/-! ## Subscribers and publishers -/

/-- A call serves its client, is about to return, or has returned. -/
inductive Phase
  | serving
  | leaving
  | gone
  deriving DecidableEq

/-- A call of `subscribe`. What it has sent and what was offered to it, and whether some
    of that was refused, is the history. -/
structure Subscriber (K U : Type) where
  key : K
  channel : List U
  closed : Bool
  phase : Phase
  sent : List U
  offered : List U
  refused : Bool

/-- A call of `publishToSubscribers`. While it goes through the channels it has the read
    lock. -/
inductive Publisher (K U : Type)
  | publishing (update : U) (todo dropouts : List K)
  | dropping (dropouts : List K)
  | done

namespace Publisher

/-- While a publisher goes through the channels nobody else may write to the map. -/
def isReader : Publisher K U → Bool
  | .publishing .. => true
  | .dropping _ | .done => false

/-- The keys of what the publisher is going to drop. -/
def dropouts : Publisher K U → List K
  | .publishing _ _ dropouts | .dropping dropouts => dropouts
  | .done => []

end Publisher

/-- `subscribers` has the index of the call whose channel is registered under a key. A
    publisher that sends on a closed channel panics. -/
structure Manager (K U : Type) where
  subscribers : Map K Nat
  calls : List (Subscriber K U)
  publishers : List (Publisher K U)
  panicked : Bool

variable [DecidableEq K]

/-- Nobody has subscribed. -/
def newManager : Manager K U where
  subscribers := ∅
  calls := []
  publishers := []
  panicked := false

/-- The room in a subscriber's channel. -/
def channelSize : Nat := 250

/-- A call that has just begun, with an empty channel. -/
def newSubscriber (key : K) : Subscriber K U where
  key := key
  channel := []
  closed := false
  phase := .serving
  sent := []
  offered := []
  refused := false

/-- What can happen next. A publisher comes to the channels in any order, one at a time, and a
    client is as slow as it likes. -/
inductive Action (K U : Type)
  | subscribe (key : K)
  | receive (i : Nat) (sent : Bool)
  | cancel (i : Nat)
  | unsubscribe (i : Nat)
  | publish (update : U)
  | offer (p : Nat) (key : K)
  | unlock (p : Nat)
  | drop (p : Nat)

/-- A publisher has the read lock, so the write lock cannot be had. -/
def isReadLocked (s : Manager K U) : Bool :=
  s.publishers.any Publisher.isReader

/-- `dropSubscriber` for one key. -/
def dropOne (s : Manager K U) (key : K) : Manager K U :=
  match s.subscribers.lookup key with
  | none => s
  | some i => match s.calls[i]? with
    | none => s
    | some c =>
        { s with
          subscribers := s.subscribers.erase key
          calls := s.calls.set i { c with closed := true } }

/-- A full channel refuses the update, and its key becomes a dropout. -/
def offer (s : Manager K U) (p i : Nat) (c : Subscriber K U) (update : U) (key : K)
    (todo dropouts : List K) : Manager K U :=
  if c.closed then { s with panicked := true }
  else if c.channel.length < channelSize then
    { s with
      calls := s.calls.set i
        { c with channel := c.channel ++ [update], offered := c.offered ++ [update] }
      publishers := s.publishers.set p (.publishing update (todo.erase key) dropouts) }
  else
    { s with
      calls := s.calls.set i { c with offered := c.offered ++ [update], refused := true }
      publishers := s.publishers.set p
        (.publishing update (todo.erase key) (dropouts ++ [key])) }

/-- A call ends when its context is done, when sending fails, and when its channel is
    closed and empty. -/
def step (s : Manager K U) : Action K U → Option (Manager K U)
  | .subscribe key =>
      if isReadLocked s then none
      else some { s with
        subscribers := s.subscribers.insert key s.calls.length
        calls := s.calls ++ [newSubscriber key] }
  | .receive i sent => match s.calls[i]? with
    | some c =>
        if c.phase ≠ .serving then none
        else match c.channel with
          | update :: channel => some { s with
              calls := s.calls.set i { c with
                channel := channel
                sent := c.sent ++ [update]
                phase := if sent then .serving else .leaving } }
          | [] =>
              if c.closed then
                some { s with calls := s.calls.set i { c with phase := .leaving } }
              else none
    | none => none
  | .cancel i => match s.calls[i]? with
    | some c =>
        if c.phase = .serving then
          some { s with calls := s.calls.set i { c with phase := .leaving } }
        else none
    | none => none
  | .unsubscribe i => match s.calls[i]? with
    | some c =>
        if c.phase = .leaving ∧ isReadLocked s = false then
          some { s with
            subscribers := s.subscribers.erase c.key
            calls := s.calls.set i { c with phase := .gone } }
        else none
    | none => none
  | .publish update => some { s with
      publishers := s.publishers ++ [.publishing update s.subscribers.keys []] }
  | .offer p key => match s.publishers[p]? with
    | some (.publishing update todo dropouts) =>
        if key ∈ todo then
          match s.subscribers.lookup key with
          | some i => match s.calls[i]? with
            | some c => some (offer s p i c update key todo dropouts)
            | none => none
          | none => none
        else none
    | _ => none
  | .unlock p => match s.publishers[p]? with
    | some (.publishing _ [] dropouts) => some { s with
        publishers := s.publishers.set p
          (if dropouts.isEmpty then .done else .dropping dropouts) }
    | _ => none
  | .drop p => match s.publishers[p]? with
    | some (.dropping dropouts) =>
        if isReadLocked s then none
        else
          let s := dropouts.foldl dropOne s
          some { s with publishers := s.publishers.set p .done }
    | _ => none

/-! ## What holds for a subscriber -/

/-- What the call has sent, and then what is in its channel, is what was offered first. -/
def Gapless (c : Subscriber K U) : Prop :=
  c.sent ++ c.channel <+: c.offered

/-- Each subscriber sees what was published since it subscribed, without gaps, up to some
    point. One that has refused an update is not registered any more, or some publisher is
    going to drop it. No update was sent on a closed channel. -/
structure Good (s : Manager K U) : Prop where
  gapless : ∀ c ∈ s.calls, Gapless c
  dropped : ∀ (i : Nat) (c : Subscriber K U), s.calls[i]? = some c → c.refused = true →
    s.subscribers.lookup c.key = some i → ∃ p ∈ s.publishers, c.key ∈ p.dropouts
  calm : s.panicked = false

/-- No publisher finds room in the channel of a subscriber that has refused an update. -/
def InTime (s : Manager K U) : Action K U → Prop
  | .offer _ key => ∀ i c, s.subscribers.lookup key = some i → s.calls[i]? = some c →
      c.refused = true → channelSize ≤ c.channel.length
  | _ => True

/-! ## What a step can do -/

/-- What a step can do, with what it asks for. -/
inductive Effect (s : Manager K U) : Action K U → Manager K U → Prop
  | subscribed (key : K) : isReadLocked s = false → Effect s (.subscribe key)
      { s with
        subscribers := s.subscribers.insert key s.calls.length
        calls := s.calls ++ [newSubscriber key] }
  | received (i : Nat) (sent : Bool) (c : Subscriber K U) (update : U) (channel : List U) :
      s.calls[i]? = some c → c.channel = update :: channel → Effect s (.receive i sent)
      { s with calls := s.calls.set i { c with
          channel := channel
          sent := c.sent ++ [update]
          phase := if sent then .serving else .leaving } }
  | left (a : Action K U) (i : Nat) (c : Subscriber K U) : s.calls[i]? = some c →
      Effect s a { s with calls := s.calls.set i { c with phase := .leaving } }
  | unsubscribed (i : Nat) (c : Subscriber K U) : s.calls[i]? = some c →
      Effect s (.unsubscribe i)
      { s with
        subscribers := s.subscribers.erase c.key
        calls := s.calls.set i { c with phase := .gone } }
  | published (update : U) : Effect s (.publish update)
      { s with publishers := s.publishers ++ [.publishing update s.subscribers.keys []] }
  | offered (p i : Nat) (c : Subscriber K U) (update : U) (key : K) (todo dropouts : List K) :
      s.publishers[p]? = some (.publishing update todo dropouts) →
      s.subscribers.lookup key = some i → s.calls[i]? = some c →
      Effect s (.offer p key) (offer s p i c update key todo dropouts)
  | unlocked (p : Nat) (update : U) (dropouts : List K) :
      s.publishers[p]? = some (.publishing update [] dropouts) → Effect s (.unlock p)
      { s with
        publishers := s.publishers.set p
          (if dropouts.isEmpty then .done else .dropping dropouts) }
  | dropped (p : Nat) (dropouts : List K) : s.publishers[p]? = some (.dropping dropouts) →
      Effect s (.drop p)
      { (dropouts.foldl dropOne s) with
        publishers := (dropouts.foldl dropOne s).publishers.set p .done }

/-- So what is to be kept is shown once for each effect. -/
theorem effect_of_step {s s' : Manager K U} {a : Action K U} (h : step s a = some s') :
    Effect s a s' := by
  cases a with
  | subscribe key =>
      -- Who subscribes needs the write lock.
      rw [step, Option.ite_none_left_eq_some, Option.some.injEq] at h
      rw [← h.2]
      exact .subscribed key (Bool.not_eq_true _ ▸ h.1)
  | receive i sent =>
      rw [step] at h
      split at h
      · next c hc =>
          rw [Option.ite_none_left_eq_some] at h
          rcases h with ⟨_, h⟩
          -- Either there is an update in the channel, or it was closed and is empty.
          split at h
          · next update channel hchannel =>
              rw [← Option.some.inj h]
              exact .received i sent c update channel hc hchannel
          · rw [Option.ite_none_right_eq_some, Option.some.injEq] at h
            rw [← h.2]
            exact .left _ i c hc
      · exact absurd h nofun
  | cancel i =>
      rw [step] at h
      split at h
      · next c hc =>
          rw [Option.ite_none_right_eq_some, Option.some.injEq] at h
          rw [← h.2]
          exact .left _ i c hc
      · exact absurd h nofun
  | unsubscribe i =>
      rw [step] at h
      split at h
      · next c hc =>
          -- The entry under the key is erased, whoever it belongs to by now.
          rw [Option.ite_none_right_eq_some, Option.some.injEq] at h
          rw [← h.2]
          exact .unsubscribed i c hc
      · exact absurd h nofun
  | publish update =>
      rw [step, Option.some.injEq] at h
      rw [← h]
      exact .published update
  | offer p key =>
      rw [step] at h
      split at h
      · next update todo dropouts hp =>
          rw [Option.ite_none_right_eq_some] at h
          rcases h with ⟨_, h⟩
          -- The publisher sends to whoever is registered under the key.
          split at h
          · next i hkey =>
              split at h
              · next c hc =>
                  rw [← Option.some.inj h]
                  exact .offered p i c update key todo dropouts hp hkey hc
              · exact absurd h nofun
          · exact absurd h nofun
      · exact absurd h nofun
  | unlock p =>
      rw [step] at h
      split at h
      · next update dropouts hp =>
          rw [← Option.some.inj h]
          exact .unlocked p update dropouts hp
      · exact absurd h nofun
  | drop p =>
      rw [step] at h
      split at h
      · next dropouts hp =>
          -- The dropouts are dropped once nobody reads any more.
          rw [Option.ite_none_left_eq_some] at h
          rcases h with ⟨_, h⟩
          dsimp only at h
          rw [← Option.some.inj h]
          exact .dropped p dropouts hp
      · exact absurd h nofun

/-! ## Registered channels -/

/-- A registered channel is that of a call with this key, and it is open. -/
structure Safe (s : Manager K U) : Prop where
  registered : ∀ k i, s.subscribers.lookup k = some i →
    ∃ c, s.calls[i]? = some c ∧ c.key = k ∧ c.closed = false
  dropped : ∀ (k : K) (i : Nat) (c : Subscriber K U), s.subscribers.lookup k = some i →
    s.calls[i]? = some c → c.refused = true → ∃ p ∈ s.publishers, k ∈ p.dropouts
  calm : s.panicked = false

variable {s s' : Manager K U} {a : Action K U}

/-- A call that goes on with the same key, as open as it was and with nothing refused. -/
theorem safe_of_call {i : Nat} {c : Subscriber K U} (hs : Safe s) (hc : s.calls[i]? = some c)
    (c' : Subscriber K U) (hkey : c'.key = c.key) (hclosed : c'.closed = c.closed)
    (hrefused : c'.refused = true → c.refused = true) :
    Safe { s with calls := s.calls.set i c' } := by
  have hlt : i < s.calls.length := (List.getElem?_eq_some_iff.mp hc).1
  refine ⟨fun k j hj => ?_, fun k j d hj hd hrefuses => ?_, hs.calm⟩
  · rcases hs.registered k j hj with ⟨d, hd, hdkey, hdopen⟩
    by_cases hij : i = j
    · rw [← hij, hc, Option.some.injEq] at hd
      refine ⟨c', ?_, hkey.trans (hd ▸ hdkey), hclosed.trans (hd ▸ hdopen)⟩
      rw [← hij]
      exact List.getElem?_set_self hlt
    · exact ⟨d, (List.getElem?_set_ne hij).trans hd, hdkey, hdopen⟩
  · by_cases hij : i = j
    · rw [← hij] at hj hd
      have hd' : d = c' := Option.some.inj (hd.symm.trans (List.getElem?_set_self hlt))
      exact hs.dropped k i c hj hc (hrefused (hd' ▸ hrefuses))
    · exact hs.dropped k j d hj ((List.getElem?_set_ne hij).symm.trans hd) hrefuses

theorem safe_of_erase (hs : Safe s) (key : K) :
    Safe { s with subscribers := s.subscribers.erase key } := by
  have hold : ∀ k i, (s.subscribers.erase key).lookup k = some i →
      s.subscribers.lookup k = some i := by
    intro k i h
    rw [Map.lookup_erase_eq_ite] at h
    split_ifs at h
    exact h
  exact ⟨fun k i h => hs.registered k i (hold k i h),
    fun k i c h => hs.dropped k i c (hold k i h), hs.calm⟩

/-- What a publisher is going to drop stays so. -/
theorem safe_of_publisher {p : Nat} {q q' : Publisher K U} (hs : Safe s)
    (hq : s.publishers[p]? = some q) (hdropouts : ∀ k ∈ q.dropouts, k ∈ q'.dropouts) :
    Safe { s with publishers := s.publishers.set p q' } := by
  refine ⟨hs.registered, fun k i c hi hc hrefused => ?_, hs.calm⟩
  have hlt : p < s.publishers.length := (List.getElem?_eq_some_iff.mp hq).1
  rcases hs.dropped k i c hi hc hrefused with ⟨r, hr, hk⟩
  by_cases heq : r = q
  · exact ⟨q', List.mem_set hlt q', hdropouts k (heq ▸ hk)⟩
  · exact ⟨r, mem_set_of_mem_of_ne hq hr heq, hk⟩

/-- Closing a channel and removing it is one step. -/
theorem safe_dropOne (hs : Safe s) (key : K) :
    Safe (dropOne s key) ∧ (dropOne s key).publishers = s.publishers ∧
      ∀ k, (dropOne s key).subscribers.lookup k ≠ none →
        k ≠ key ∧ s.subscribers.lookup k ≠ none := by
  unfold dropOne
  cases hkey : s.subscribers.lookup key with
  | none =>
      refine ⟨hs, rfl, fun k hk => ⟨?_, hk⟩⟩
      rintro rfl
      exact hk hkey
  | some i =>
      rcases hs.registered key i hkey with ⟨c, hc, hckey, _⟩
      dsimp only
      rw [hc]
      have hold : ∀ k j, (s.subscribers.erase key).lookup k = some j →
          k ≠ key ∧ s.subscribers.lookup k = some j := by
        intro k j h
        rw [Map.lookup_erase_eq_ite] at h
        split_ifs at h with hk
        exact ⟨hk, h⟩
      -- the call that is closed is not registered under another key
      have hother : ∀ k j, (s.subscribers.erase key).lookup k = some j → i ≠ j := by
        intro k j h hij
        rcases hold k j h with ⟨hk, hj⟩
        rcases hs.registered k j hj with ⟨d, hd, hdkey, _⟩
        rw [← hij, hc, Option.some.injEq] at hd
        exact hk (hdkey.symm.trans (hd ▸ hckey))
      refine ⟨⟨fun k j hj => ?_, fun k j d hj hd hrefused => ?_, hs.calm⟩, rfl, fun k hk => ?_⟩
      · rcases hs.registered k j (hold k j hj).2 with ⟨d, hd, hrest⟩
        exact ⟨d, (List.getElem?_set_ne (hother k j hj)).trans hd, hrest⟩
      · exact hs.dropped k j d (hold k j hj).2
          ((List.getElem?_set_ne (hother k j hj)).symm.trans hd) hrefused
      · rcases Option.ne_none_iff_exists'.mp hk with ⟨j, hj⟩
        rw [(hold k j hj).2]
        exact ⟨(hold k j hj).1, Option.some_ne_none j⟩

theorem safe_dropAll (hs : Safe s) (keys : List K) :
    Safe (keys.foldl dropOne s) ∧ (keys.foldl dropOne s).publishers = s.publishers ∧
      ∀ k, (keys.foldl dropOne s).subscribers.lookup k ≠ none →
        k ∉ keys ∧ s.subscribers.lookup k ≠ none := by
  induction keys generalizing s with
  | nil => exact ⟨hs, rfl, fun k hk => ⟨List.not_mem_nil, hk⟩⟩
  | cons key keys ih =>
      rcases safe_dropOne hs key with ⟨hone, hpublishers, hlookup⟩
      rcases ih hone with ⟨hall, hpublishers', hlookup'⟩
      refine ⟨hall, hpublishers'.trans hpublishers, fun k hk => ?_⟩
      rcases hlookup' k hk with ⟨hnot, hk'⟩
      rcases hlookup k hk' with ⟨hne, hk''⟩
      exact ⟨fun hmem => (List.mem_cons.mp hmem).elim hne hnot, hk''⟩

/-- A publisher that comes to a registered channel finds it open. -/
theorem safe_offer (hs : Safe s) {p i : Nat} {c : Subscriber K U} {update : U} {key : K}
    {todo dropouts : List K} (hp : s.publishers[p]? = some (.publishing update todo dropouts))
    (hkey : s.subscribers.lookup key = some i) (hc : s.calls[i]? = some c) :
    Safe (offer s p i c update key todo dropouts) := by
  rcases hs.registered key i hkey with ⟨d, hd, hdkey, hopen⟩
  rw [hc, Option.some.injEq] at hd
  rw [← hd] at hopen hdkey
  have hclosed : ¬ c.closed = true := by
    rw [hopen]
    exact Bool.false_ne_true
  unfold offer
  rw [if_neg hclosed]
  split_ifs with hroom
  · let c' := { c with channel := c.channel ++ [update], offered := c.offered ++ [update] }
    have hcall := safe_of_call hs hc c' rfl rfl id
    exact safe_of_publisher hcall hp fun k hk => hk
  · have hlt : i < s.calls.length := (List.getElem?_eq_some_iff.mp hc).1
    have hltp : p < s.publishers.length := (List.getElem?_eq_some_iff.mp hp).1
    refine ⟨fun k j hj => ?_, fun k j e hj he hrefused => ?_, hs.calm⟩
    · rcases hs.registered k j hj with ⟨e, he, hekey, heopen⟩
      by_cases hij : i = j
      · rw [← hij, hc, Option.some.injEq] at he
        refine ⟨{ c with offered := c.offered ++ [update], refused := true }, ?_, ?_, ?_⟩
        · rw [← hij]
          exact List.getElem?_set_self hlt
        · exact he ▸ hekey
        · exact he ▸ heopen
      · exact ⟨e, (List.getElem?_set_ne hij).trans he, hekey, heopen⟩
    · by_cases hij : i = j
      · -- the publisher keeps the key in mind
        rcases hs.registered k j hj with ⟨e', he', hkey', _⟩
        rw [← hij, hc, Option.some.injEq] at he'
        have hk : k = key := by rw [← hkey', ← he', hdkey]
        refine ⟨_, List.mem_set hltp _, ?_⟩
        rw [hk]
        exact List.mem_append_right _ List.mem_cons_self
      · have hold := hs.dropped k j e hj ((List.getElem?_set_ne hij).symm.trans he) hrefused
        rcases hold with ⟨q, hq, hqk⟩
        by_cases heq : q = .publishing update todo dropouts
        · rw [heq] at hqk
          exact ⟨_, List.mem_set hltp _, List.mem_append_left _ hqk⟩
        · exact ⟨q, mem_set_of_mem_of_ne hp hq heq, hqk⟩

/-- A channel that is closed is taken out of the map in the same step, under the lock. -/
theorem safe_step (hs : Safe s) (h : step s a = some s') : Safe s' := by
  cases effect_of_step h with
  | subscribed key hfree =>
      have hlookup : ∀ k i, (s.subscribers.insert key s.calls.length).lookup k = some i →
          (k = key ∧ i = s.calls.length) ∨ s.subscribers.lookup k = some i := by
        intro k i hi
        rw [Map.lookup_insert_eq_ite] at hi
        split_ifs at hi with hk
        · exact .inl ⟨hk, (Option.some.inj hi).symm⟩
        · exact .inr hi
      refine ⟨fun k i hi => ?_, fun k i c hi hc hrefused => ?_, hs.calm⟩
      · rcases hlookup k i hi with ⟨rfl, rfl⟩ | hold
        · exact ⟨newSubscriber k, List.getElem?_concat_length, rfl, rfl⟩
        · rcases hs.registered k i hold with ⟨c, hc, hrest⟩
          have hlt : i < s.calls.length := (List.getElem?_eq_some_iff.mp hc).1
          exact ⟨c, (List.getElem?_append_left hlt).trans hc, hrest⟩
      · rcases hlookup k i hi with ⟨_, rfl⟩ | hold
        · rw [List.getElem?_concat_length, Option.some.injEq] at hc
          rw [← hc] at hrefused
          exact absurd hrefused nofun
        · rcases hs.registered k i hold with ⟨d, hd, _⟩
          have hlt : i < s.calls.length := (List.getElem?_eq_some_iff.mp hd).1
          exact hs.dropped k i c hold ((List.getElem?_append_left hlt).symm.trans hc) hrefused
  | received i sent c update channel hc hchannel => exact safe_of_call hs hc _ rfl rfl id
  | left a i c hc => exact safe_of_call hs hc _ rfl rfl id
  | unsubscribed i c hc =>
      have hcall : Safe { s with calls := s.calls.set i { c with phase := .gone } } :=
        safe_of_call hs hc _ rfl rfl id
      exact safe_of_erase hcall c.key
  | published update =>
      refine ⟨hs.registered, fun k i c hi hc hrefused => ?_, hs.calm⟩
      rcases hs.dropped k i c hi hc hrefused with ⟨p, hp, hk⟩
      exact ⟨p, List.mem_append_left _ hp, hk⟩
  | offered p i c update key todo dropouts hp hkey hc => exact safe_offer hs hp hkey hc
  | unlocked p update dropouts hp =>
      refine safe_of_publisher hs hp fun k hk => ?_
      split_ifs with hempty
      · rw [List.isEmpty_iff] at hempty
        rw [Publisher.dropouts, hempty] at hk
        exact absurd hk List.not_mem_nil
      · exact hk
  | dropped p dropouts hp =>
      rcases safe_dropAll hs dropouts with ⟨hsafe, hpublishers, hlookup⟩
      refine ⟨hsafe.registered, fun k i c hi hc hrefused => ?_, hsafe.calm⟩
      rcases hsafe.dropped k i c hi hc hrefused with ⟨q, hq, hk⟩
      -- what is still registered is not what this publisher had to drop
      have hfound : (dropouts.foldl dropOne s).subscribers.lookup k ≠ none := by
        rw [hi]
        exact Option.some_ne_none i
      have hnot := (hlookup k hfound).1
      rw [← hpublishers] at hp
      refine ⟨q, mem_set_of_mem_of_ne hp hq fun heq => hnot ?_, hk⟩
      rw [heq] at hk
      exact hk

/-- In every run no update is sent on a closed channel, and a subscriber that has refused
    an update is dropped. -/
theorem safe_of_reaches {ok : Manager K U → Action K U → Prop}
    (hr : ReachesWithin step ok newManager s) : Safe s := by
  refine invariant_of_reachesWithin (fun _ _ _ _ hs _ h => safe_step hs h) hr ⟨?_, ?_, rfl⟩
  · intro k i h
    exact absurd h nofun
  · intro k i c h
    exact absurd h nofun

/-! ## What is sent -/

/-- While a subscriber has refused nothing, nothing of what was offered is missing. -/
def Whole (c : Subscriber K U) : Prop :=
  Gapless c ∧ (c.refused = false → c.sent ++ c.channel = c.offered)

/-- Dropping leaves alone what is sent and offered. -/
theorem whole_dropAll (hw : ∀ c ∈ s.calls, Whole c) (keys : List K) :
    ∀ c ∈ (keys.foldl dropOne s).calls, Whole c := by
  induction keys generalizing s with
  | nil => exact hw
  | cons key keys ih =>
      refine ih ?_
      unfold dropOne
      split
      · exact hw
      · next i _ =>
          split
          · exact hw
          · next c hc => exact forall_mem_set hw (hw c (List.mem_of_getElem? hc))

/-- An update that is accepted after a refusal would leave a gap. -/
theorem whole_offer (hw : ∀ c ∈ s.calls, Whole c) {p i : Nat} {c : Subscriber K U} {update : U}
    {key : K} {todo dropouts : List K} (hc : s.calls[i]? = some c)
    (hintime : c.refused = true → channelSize ≤ c.channel.length) :
    ∀ d ∈ (offer s p i c update key todo dropouts).calls, Whole d := by
  rcases hw c (List.mem_of_getElem? hc) with ⟨hgapless, hall⟩
  unfold offer
  split_ifs with hclosed hroom
  · exact hw
  · have hrefused : c.refused = false := by
      by_contra hne
      have hfull := hintime (Bool.not_eq_false _ ▸ hne)
      omega
    have heq : c.sent ++ (c.channel ++ [update]) = c.offered ++ [update] := by
      rw [← List.append_assoc, hall hrefused]
    exact forall_mem_set hw ⟨heq ▸ List.prefix_rfl, fun _ => heq⟩
  · exact forall_mem_set hw ⟨hgapless.trans (List.prefix_append _ _), fun h => absurd h nofun⟩

/-- What is on its way to a client is what was offered to it, until something is refused. -/
theorem whole_step (hw : ∀ c ∈ s.calls, Whole c) (hok : InTime s a) (h : step s a = some s') :
    ∀ c ∈ s'.calls, Whole c := by
  cases effect_of_step h with
  | subscribed key hfree =>
      intro c hc
      rcases List.mem_append.mp hc with hold | hnew
      · exact hw c hold
      · rw [List.mem_singleton.mp hnew]
        exact ⟨List.prefix_rfl, fun _ => rfl⟩
  | received i sent c update channel hc hchannel =>
      rcases hw c (List.mem_of_getElem? hc) with ⟨hgapless, hall⟩
      -- the update moves from the channel to what is sent
      have heq : c.sent ++ [update] ++ channel = c.sent ++ c.channel := by
        rw [hchannel, List.append_assoc, List.singleton_append]
      refine forall_mem_set hw ⟨?_, fun hrefused => ?_⟩
      · unfold Gapless
        rw [heq]
        exact hgapless
      · rw [heq]
        exact hall hrefused
  | left a i c hc => exact forall_mem_set hw (hw c (List.mem_of_getElem? hc))
  | unsubscribed i c hc => exact forall_mem_set hw (hw c (List.mem_of_getElem? hc))
  | published update => exact hw
  | offered p i c update key todo dropouts hp hkey hc =>
      exact whole_offer hw hc (hok i c hkey hc)
  | unlocked p update dropouts hp => exact hw
  | dropped p dropouts hp => exact whole_dropAll hw dropouts

/-- In a run without a late update, every subscriber sees what was published since it subscribed
    without gaps. Nothing is sent on a channel that was closed, and one who was too slow for an
    update is dropped, so nobody goes on with a gap that he does not know of. -/
theorem good_of_reaches (hr : ReachesWithin step InTime newManager s) : Good s := by
  have hsafe := safe_of_reaches hr
  have hwhole : ∀ c ∈ s.calls, Whole c :=
    invariant_of_reachesWithin (fun _ _ _ _ hw hok h => whole_step hw hok h) hr
      fun _ hc => absurd hc List.not_mem_nil
  exact ⟨fun c hc => (hwhole c hc).1, fun i c hc hrefused hi => hsafe.dropped _ i c hi hc hrefused,
    hsafe.calm⟩

instance decidableInTime (s : Manager K U) : ∀ a, Decidable (InTime s a)
  | .subscribe _ | .receive .. | .cancel _ | .unsubscribe _ | .publish _ | .unlock _
  | .drop _ => isTrue trivial
  | .offer _ key =>
      decidable_of_iff (((s.subscribers.lookup key).bind fun i => s.calls[i]?).all fun c =>
        !c.refused || decide (channelSize ≤ c.channel.length)) (by
          simp only [Option.all_eq_true, Bool.or_eq_true, Bool.not_eq_eq_eq_not, Bool.not_true,
            decide_eq_true_eq, Option.bind_eq_some_iff, InTime]
          constructor
          · intro h i c hi hc hrefused
            exact (h c ⟨i, hi, hc⟩).resolve_left (by rw [hrefused]; exact Bool.noConfusion)
          · intro h c ⟨i, hi, hc⟩
            cases hrefused : c.refused with
            | false => exact .inl rfl
            | true => exact .inr (h i c hi hc hrefused))

/-- A subscriber that has taken nothing from its channel. -/
def filled (n : Nat) : Manager Nat Nat where
  subscribers := (∅ : Map Nat Nat).insert 0 0
  calls := [{ newSubscriber 0 with channel := List.range n, offered := List.range n }]
  publishers := List.replicate n .done
  panicked := false

theorem reaches_filled (n : Nat) (hn : n ≤ channelSize) :
    ReachesWithin step InTime newManager (filled n) := by
  induction n with
  | zero => exact ReachesWithin.step _ _ _ (.subscribe 0) (ReachesWithin.refl _) trivial rfl
  | succ n ih =>
      have hlen : (List.replicate n (.done : Publisher Nat Nat)).length = n :=
        List.length_replicate
      -- the publisher that works is the last one
      have hget : ∀ p : Publisher Nat Nat, (List.replicate n .done ++ [p])[n]? = some p := by
        intro p
        rw [List.getElem?_append_right (Nat.le_of_eq hlen), hlen, Nat.sub_self,
          List.getElem?_cons_zero]
      have hset : ∀ p q : Publisher Nat Nat, (List.replicate n Publisher.done ++ [p]).set n q =
          List.replicate n Publisher.done ++ [q] := by
        intro p q
        rw [List.set_append_right _ _ (Nat.le_of_eq hlen), hlen, Nat.sub_self,
          List.set_cons_zero]
      have hroom : (List.range n).length < channelSize := by rwa [List.length_range]
      have hpublish : step (filled n) (.publish n) = some { filled n with
          publishers := List.replicate n .done ++ [.publishing n [0] []] } := rfl
      have hoffer : step { filled n with
          publishers := List.replicate n .done ++ [.publishing n [0] []] } (.offer n 0) =
          some { filled (n + 1) with
            publishers := List.replicate n .done ++ [.publishing n [] []] } := by
        rw [step, hget]
        simp only [filled, Map.lookup_insert_eq_ite, if_true, List.mem_singleton, offer,
          newSubscriber, List.getElem?_cons_zero, hroom, hset, List.range_succ,
          List.set_cons_zero, Bool.false_eq_true, if_false]
        rfl
      have hunlock : step { filled (n + 1) with
          publishers := List.replicate n .done ++ [.publishing n [] []] } (.unlock n) =
          some (filled (n + 1)) := by
        rw [step, hget]
        simp only [hset, filled, List.replicate_succ']
        rfl
      have hintime : InTime { filled n with
          publishers := List.replicate n .done ++ [.publishing n [0] []] } (.offer n 0) := by
        intro i c hi hc hrefused
        rw [← Option.some.inj hi] at hc
        rw [← Option.some.inj hc] at hrefused
        exact absurd hrefused nofun
      have h1 := ReachesWithin.step _ _ _ (Action.publish n) (ih (Nat.le_of_lt hn)) trivial hpublish
      have h2 := ReachesWithin.step _ _ _ (Action.offer n 0) h1 hintime hoffer
      exact ReachesWithin.step _ _ _ (Action.unlock n) h2 trivial hunlock

/-- One update is refused, and the subscriber is dropped. It sends what its channel still
    has. -/
theorem good_droppedInTime : ∃ s : Manager Nat Nat, (∃ c ∈ s.calls, c.refused ∧ c.closed ∧
    c.sent = [0, 1]) ∧ Good s := by
  rcases exists_of_runActions_any step [.publish 250, .offer 250 0, .unlock 250, .receive 0 true,
    .drop 250, .publish 251, .unlock 251, .receive 0 true] (filled channelSize)
    (fun s => s.calls.any fun c => c.refused && c.closed && c.sent == [0, 1])
    (by decide +kernel) with ⟨s, hrun, h⟩
  simp only [List.any_eq_true, Bool.and_eq_true, beq_iff_eq, and_assoc] at h
  have hr := reachesWithin_trans (reaches_filled channelSize (Nat.le_refl _))
    (reachesWithin_of_runActions _ _ s (by decide +kernel) hrun)
  exact ⟨s, h, good_of_reaches hr⟩

/-- One publisher finds the channel full. Before it drops the subscriber, one update is
    taken, and a second publisher finds room. -/
theorem gap_lateUpdate : ¬ ∀ s : Manager Nat Nat,
    ReachesWithin step (fun _ _ => True) newManager s → Good s := by
  intro h
  rcases exists_of_runActions_any step [.publish 250, .offer 250 0, .unlock 250, .publish 251,
    .receive 0 true, .offer 251 0] (filled channelSize)
    (fun s => s.calls.any fun c => ! (c.sent ++ c.channel).isPrefixOf c.offered)
    (by decide +kernel) with ⟨s, hrun, hgap⟩
  have hr := reachesWithin_trans
    (reachesWithin_mono (fun _ _ _ => trivial) (reaches_filled channelSize (Nat.le_refl _)))
    (reaches_of_runActions hrun)
  rcases List.any_eq_true.mp hgap with ⟨c, hc, hnot⟩
  rw [Bool.not_eq_true', ← Bool.not_eq_true, List.isPrefixOf_iff_prefix] at hnot
  exact hnot ((h s hr).gapless c hc)

end Subscribers

end WsManager

end Nxpod
