import Mathlib.Order.Interval.Finset.Nat
import StaticSite.Preview.LiveReload

/-!
# What a connected browser hears

Announcements, the end of the channel and the work of one stream come in any order. The stream may
be interrupted between any two of its takes from the channel, so that announcements can also come
up within one poll. Announcements are counted from one over the whole life of the channel.

The invariant of every run is that of the announcements that are over for the listener, all that
the channel still keeps have been delivered (`Hearing.Follows`). It follows that a stream never
waits or ends before it has delivered the latest announcement (`run_hears`).
-/

namespace StaticSite.LiveReload

variable {channel : Channel} {listener : Listener}

/-! ## What a stream does with the channel -/

/-- A listener who has fallen behind the announcements that are kept lags, any other one who is behind
gets the next announcement, and one who has heard them all gets none. -/
private theorem receive_eq (h : listener.position ≤ channel.sent) :
    (listener.position + capacity < channel.sent ∧
        channel.receive listener = (.lagged, ⟨channel.sent - capacity⟩)) ∨
      (listener.position < channel.sent ∧ channel.sent ≤ listener.position + capacity ∧
        channel.receive listener = (.announcement, ⟨listener.position + 1⟩)) ∨
      (listener.position = channel.sent ∧
        channel.receive listener = (if channel.closed then .closed else .empty, listener)) := by
  rw [Channel.receive]
  by_cases hlagged : listener.position + capacity < channel.sent
  · exact .inl ⟨hlagged, if_pos hlagged⟩
  rw [if_neg hlagged]
  by_cases hnext : listener.position < channel.sent
  · exact .inr (.inl ⟨hnext, not_lt.mp hlagged, if_pos hnext⟩)
  rw [if_neg hnext]
  refine .inr (.inr ⟨le_antisymm h (not_lt.mp hnext), ?_⟩)
  cases channel.closed <;> rfl

/-- A poll passes over the news that announcements were dropped. -/
private theorem poll_eq (h : listener.position ≤ channel.sent) :
    (listener.position + capacity < channel.sent ∧
        channel.poll listener = (.event, ⟨channel.sent - capacity + 1⟩)) ∨
      (listener.position < channel.sent ∧ channel.sent ≤ listener.position + capacity ∧
        channel.poll listener = (.event, ⟨listener.position + 1⟩)) ∨
      (listener.position = channel.sent ∧
        channel.poll listener = (if channel.closed then .ended else .waiting, listener)) := by
  rcases receive_eq h with ⟨hlagged, heq⟩ | ⟨hnext, hkept, heq⟩ | ⟨hlast, heq⟩
  · have hagain : channel.receive ⟨channel.sent - capacity⟩ =
        (.announcement, ⟨channel.sent - capacity + 1⟩) := by
      have hpositive : 0 < capacity := by decide
      rw [Channel.receive, if_neg (by simp only; omega), if_pos (by simp only; omega)]
    exact .inl ⟨hlagged, by simp only [Channel.poll, heq, hagain]⟩
  · exact .inr (.inl ⟨hnext, hkept, by simp only [Channel.poll, heq]⟩)
  · refine .inr (.inr ⟨hlast, ?_⟩)
    cases hclosed : channel.closed <;> simp [Channel.poll, heq, hclosed]

/-! ## Runs -/

/-- What happens next to a channel and one of its streams. -/
inductive Action where
  /-- A rebuild is announced. -/
  | announce
  /-- The channel is closed. -/
  | close
  /-- The stream takes what the channel gives next. -/
  | receive
  /-- The stream is polled. -/
  | poll
  deriving DecidableEq, Repr

/-- A channel with one of its listeners. -/
structure Hearing where
  /-- The channel. -/
  channel : Channel
  /-- The listener. -/
  listener : Listener
  /-- The announcements that were delivered, the latest first. -/
  delivered : List Nat
  deriving DecidableEq, Repr

namespace Hearing

variable {hearing : Hearing} {subscribed number : Nat}

/-- A listener that has subscribed just now. -/
def start (channel : Channel) : Hearing := ⟨channel, channel.subscribe, []⟩

/-- The listener has got an event for the last announcement that is over for it now. -/
def deliver (hearing : Hearing) (next : Listener) : Hearing :=
  { hearing with listener := next, delivered := next.position :: hearing.delivered }

/-- What is left after an action. -/
def step (hearing : Hearing) : Action → Hearing
  | .announce => { hearing with channel := hearing.channel.announce }
  | .close => { hearing with channel := hearing.channel.close }
  | .receive =>
    match hearing.channel.receive hearing.listener with
    | (.announcement, next) => hearing.deliver next
    | (_, next) => { hearing with listener := next }
  | .poll =>
    match hearing.channel.poll hearing.listener with
    | (.event, next) => hearing.deliver next
    | (_, next) => { hearing with listener := next }

/-- What is left after actions. -/
def run (hearing : Hearing) (actions : List Action) : Hearing := actions.foldl step hearing

theorem run_append (hearing : Hearing) (actions later : List Action) :
    hearing.run (actions ++ later) = (hearing.run actions).run later := List.foldl_append

/-! ## The invariant -/

/-- A listener that has subscribed after some announcements follows the channel: of the later ones
that are over for it, all that are still kept have been delivered, in order and none twice. -/
structure Follows (subscribed : Nat) (hearing : Hearing) : Prop where
  subscribed_le : subscribed ≤ hearing.listener.position
  position_le : hearing.listener.position ≤ hearing.channel.sent
  delivered_mem : ∀ number ∈ hearing.delivered,
    subscribed < number ∧ number ≤ hearing.listener.position
  delivered_sorted : hearing.delivered.Pairwise (· > ·)
  kept_mem : ∀ number, subscribed < number → number ≤ hearing.listener.position →
    hearing.channel.sent < number + capacity → number ∈ hearing.delivered

theorem follows_start (channel : Channel) : (start channel).Follows channel.sent where
  subscribed_le := le_rfl
  position_le := le_rfl
  delivered_mem := by simp [start]
  delivered_sorted := .nil
  kept_mem number hlater hover := absurd hover (not_le.mpr hlater)

/-- The next announcement that is over has to be delivered if it is kept. -/
theorem Follows.deliver (h : hearing.Follows subscribed) {position : Nat}
    (hposition : hearing.listener.position ≤ position) (hsent : position < hearing.channel.sent)
    (hkept : ∀ number, hearing.listener.position < number → number ≤ position →
      number + capacity ≤ hearing.channel.sent) :
    (hearing.deliver ⟨position + 1⟩).Follows subscribed where
  subscribed_le := h.subscribed_le.trans (hposition.trans (Nat.le_succ _))
  position_le := hsent
  delivered_mem number hnumber := by
    have hsubscribed := h.subscribed_le
    rcases List.mem_cons.mp hnumber with rfl | hnumber
    · exact ⟨by simp only; omega, le_rfl⟩
    · obtain ⟨hlater, hover⟩ := h.delivered_mem number hnumber
      exact ⟨hlater, hover.trans (hposition.trans (Nat.le_succ _))⟩
  delivered_sorted := by
    refine List.pairwise_cons.mpr ⟨fun number hnumber ↦ ?_, h.delivered_sorted⟩
    have hover := (h.delivered_mem number hnumber).2
    simp only
    omega
  kept_mem number hlater hover hnumber := by
    rcases Nat.lt_or_eq_of_le hover with hbefore | rfl
    · refine List.mem_cons_of_mem _ (h.kept_mem number hlater ?_ hnumber)
      by_contra hnot
      have hdropped := hkept number (not_le.mp hnot) (Nat.le_of_lt_succ hbefore)
      exact absurd hnumber (not_lt.mpr hdropped)
    · exact List.mem_cons_self

/-- Announcements that are no longer kept need not be delivered. -/
theorem Follows.skip (h : hearing.Follows subscribed)
    (hlagged : hearing.listener.position + capacity < hearing.channel.sent) :
    ({ hearing with listener := ⟨hearing.channel.sent - capacity⟩ } : Hearing).Follows
      subscribed where
  subscribed_le := by
    have hsubscribed := h.subscribed_le
    simp only
    omega
  position_le := Nat.sub_le _ _
  delivered_mem number hnumber := by
    obtain ⟨hlater, hover⟩ := h.delivered_mem number hnumber
    exact ⟨hlater, by simp only; omega⟩
  delivered_sorted := h.delivered_sorted
  kept_mem number hlater hover hnumber := by
    simp only at hover hnumber
    omega

/-- Every action keeps up the invariant. -/
theorem Follows.step (h : hearing.Follows subscribed) (action : Action) :
    (hearing.step action).Follows subscribed := by
  cases action with
  | announce =>
    exact ⟨h.subscribed_le, h.position_le.trans (Nat.le_succ _), h.delivered_mem,
      h.delivered_sorted, fun number hlater hover hnumber ↦
        h.kept_mem number hlater hover ((Nat.lt_succ_self _).trans hnumber)⟩
  | close =>
    exact ⟨h.subscribed_le, h.position_le, h.delivered_mem, h.delivered_sorted, h.kept_mem⟩
  | receive =>
    rcases receive_eq h.position_le with ⟨hlagged, heq⟩ | ⟨hnext, -, heq⟩ | ⟨-, heq⟩
    · simpa only [Hearing.step, heq] using h.skip hlagged
    · simp only [Hearing.step, heq]
      exact h.deliver le_rfl hnext fun number hafter hover ↦ absurd hover (not_le.mpr hafter)
    · simp only [Hearing.step, heq]
      cases hearing.channel.closed <;> exact h
  | poll =>
    rcases poll_eq h.position_le with ⟨hlagged, heq⟩ | ⟨hnext, -, heq⟩ | ⟨-, heq⟩
    · simp only [Hearing.step, heq]
      refine (h.skip hlagged).deliver le_rfl ?_ fun number hafter hover ↦
        absurd hover (not_le.mpr hafter)
      have hpositive : 0 < capacity := by decide
      simp only
      omega
    · simp only [Hearing.step, heq]
      exact h.deliver le_rfl hnext fun number hafter hover ↦ absurd hover (not_le.mpr hafter)
    · simp only [Hearing.step, heq]
      cases hearing.channel.closed <;> exact h

theorem Follows.run (h : hearing.Follows subscribed) (actions : List Action) :
    (hearing.run actions).Follows subscribed := by
  induction actions generalizing hearing with
  | nil => exact h
  | cons action actions ih => exact ih (h.step action)

/-! ## Waiting and ending -/

theorem sent_step (hearing : Hearing) (action : Action) :
    (hearing.step action).channel.sent =
      hearing.channel.sent + if action = .announce then 1 else 0 := by
  cases action with
  | announce => rfl
  | close => rfl
  | receive =>
    simp only [Hearing.step]
    split <;> rfl
  | poll =>
    simp only [Hearing.step]
    split <;> rfl

theorem sent_run (hearing : Hearing) (actions : List Action) :
    (hearing.run actions).channel.sent = hearing.channel.sent + actions.count .announce := by
  induction actions generalizing hearing with
  | nil => rfl
  | cons action actions ih =>
    have hrest : (hearing.run (action :: actions)).channel.sent =
        (hearing.step action).channel.sent + actions.count .announce := ih (hearing.step action)
    rw [hrest, sent_step, List.count_cons, Nat.add_assoc, Nat.add_comm (actions.count _)]
    simp only [beq_iff_eq]

/-- What was delivered once is not taken back. -/
theorem delivered_suffix_step (hearing : Hearing) (action : Action) :
    hearing.delivered <:+ (hearing.step action).delivered := by
  cases action with
  | announce => exact List.suffix_rfl
  | close => exact List.suffix_rfl
  | receive =>
    simp only [Hearing.step]
    split
    · exact List.suffix_cons _ _
    · exact List.suffix_rfl
  | poll =>
    simp only [Hearing.step]
    split
    · exact List.suffix_cons _ _
    · exact List.suffix_rfl

theorem delivered_suffix_run (hearing : Hearing) (actions : List Action) :
    hearing.delivered <:+ (hearing.run actions).delivered := by
  induction actions generalizing hearing with
  | nil => exact List.suffix_rfl
  | cons action actions ih => exact (delivered_suffix_step hearing action).trans (ih _)

/-- Announcements have distinct numbers, so a listener hears each of them at most once. -/
theorem Follows.length_delivered_le (h : hearing.Follows subscribed) :
    hearing.delivered.length ≤ hearing.channel.sent - subscribed := by
  have hnodup : hearing.delivered.Nodup := h.delivered_sorted.imp ne_of_gt
  calc hearing.delivered.length = hearing.delivered.toFinset.card :=
        (List.toFinset_card_of_nodup hnodup).symm
    _ ≤ (Finset.Ioc subscribed hearing.channel.sent).card :=
        Finset.card_le_card fun number hnumber ↦ by
          obtain ⟨hlater, hover⟩ := h.delivered_mem number (List.mem_toFinset.mp hnumber)
          exact Finset.mem_Ioc.mpr ⟨hlater, hover.trans h.position_le⟩
    _ = hearing.channel.sent - subscribed := Nat.card_Ioc _ _

/-- What the stream does when it is polled now. -/
def answer (hearing : Hearing) : Step := (hearing.channel.poll hearing.listener).1

/-- Where a stream has nothing to deliver, all announcements that are kept have been delivered. -/
theorem Follows.mem_delivered (h : hearing.Follows subscribed) (hidle : hearing.answer ≠ .event)
    (hlater : subscribed < number) (hmade : number ≤ hearing.channel.sent)
    (hkept : hearing.channel.sent < number + capacity) : number ∈ hearing.delivered := by
  rcases poll_eq h.position_le with ⟨-, heq⟩ | ⟨-, -, heq⟩ | ⟨hlast, -⟩
  · exact absurd (congrArg Prod.fst heq) hidle
  · exact absurd (congrArg Prod.fst heq) hidle
  · exact h.kept_mem number hlater (hlast ▸ hmade) hkept

theorem Follows.closed_of_ended (h : hearing.Follows subscribed)
    (hended : hearing.answer = .ended) : hearing.channel.closed = true := by
  rw [answer] at hended
  rcases poll_eq h.position_le with ⟨-, heq⟩ | ⟨-, -, heq⟩ | ⟨-, heq⟩
  · simp [heq] at hended
  · simp [heq] at hended
  · cases hclosed : hearing.channel.closed
    · simp [heq, hclosed] at hended
    · rfl

/-- A stream that has nothing to deliver has delivered an event after the last announcement. -/
theorem length_delivered_lt (channel : Channel) {before after : List Action}
    (hlast : .announce ∉ after)
    (hidle : ((start channel).run (before ++ .announce :: after)).answer ≠ .event) :
    ((start channel).run (before ++ [.announce])).delivered.length <
      ((start channel).run (before ++ .announce :: after)).delivered.length := by
  have hsplit : before ++ .announce :: after = (before ++ [.announce]) ++ after := by simp
  have hsent : ((start channel).run (before ++ .announce :: after)).channel.sent =
      ((start channel).run before).channel.sent + 1 := by
    rw [sent_run, sent_run, List.count_append, List.count_cons_self,
      List.count_eq_zero_of_not_mem hlast, Nat.add_assoc, Nat.zero_add]
  have hbefore := (follows_start channel).run before
  have hearlier : ((start channel).run (before ++ [.announce])).delivered =
      ((start channel).run before).delivered := by rw [run_append]; rfl
  -- The number of the last announcement was too high to be delivered before.
  have hfresh : ((start channel).run before).channel.sent + 1 ∉
      ((start channel).run (before ++ [.announce])).delivered := fun hmem ↦ by
    rw [hearlier] at hmem
    have hover := ((hbefore.delivered_mem _ hmem).2).trans hbefore.position_le
    exact absurd hover (Nat.not_succ_le_self _)
  have hheard : ((start channel).run before).channel.sent + 1 ∈
      ((start channel).run (before ++ .announce :: after)).delivered := by
    refine ((follows_start channel).run _).mem_delivered hidle ?_ hsent.ge ?_
    · exact Nat.lt_succ_of_le (hbefore.subscribed_le.trans hbefore.position_le)
    · rw [hsent]
      exact Nat.lt_add_of_pos_right (by decide)
  have hsuffix : ((start channel).run (before ++ [.announce])).delivered <:+
      ((start channel).run (before ++ .announce :: after)).delivered := by
    rw [hsplit, run_append _ (before ++ [Action.announce]) after]
    exact delivered_suffix_run _ _
  refine lt_of_le_of_ne hsuffix.length_le fun hsame ↦ hfresh ?_
  rw [hsuffix.eq_of_length hsame]
  exact hheard

end Hearing

open Hearing in
/-- A stream whose browser has connected after some announcements, in any run of further
announcements, takes from the channel, polls, and the end of the channel:

* it delivers no more events than there were announcements since;
* where it waits, an event has been delivered after the last announcement, if there was one;
* where it ends, the channel is closed, and of the announcements made since all that are still kept
  have been delivered. -/
theorem run_hears (channel : Channel) (actions : List Action) :
    ((start channel).run actions).delivered.length ≤ actions.count .announce ∧
    (∀ before after, actions = before ++ .announce :: after → .announce ∉ after →
      ((start channel).run actions).answer = .waiting →
      ((start channel).run (before ++ [.announce])).delivered.length <
        ((start channel).run actions).delivered.length) ∧
    (((start channel).run actions).answer = .ended →
      ((start channel).run actions).channel.closed = true ∧
      ∀ number, channel.sent < number → number ≤ channel.sent + actions.count .announce →
        channel.sent + actions.count .announce < number + capacity →
        number ∈ ((start channel).run actions).delivered) := by
  have hfollows := (follows_start channel).run actions
  have hsent : ((start channel).run actions).channel.sent =
      channel.sent + actions.count .announce := sent_run _ _
  refine ⟨?_, ?_, fun hended ↦ ⟨hfollows.closed_of_ended hended, ?_⟩⟩
  · have hlength := hfollows.length_delivered_le
    rwa [hsent, Nat.add_sub_cancel_left] at hlength
  · rintro before after rfl hlast hwaits
    exact length_delivered_lt channel hlast (by simp [hwaits])
  · intro number hlater hmade hkept
    exact hfollows.mem_delivered (by simp [hended]) hlater (hsent ▸ hmade) (hsent ▸ hkept)

end StaticSite.LiveReload
