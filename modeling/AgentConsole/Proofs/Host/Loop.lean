import AgentConsole.Host.Basic
import AgentConsole.Proofs.Console.Permission
import Mathlib.Logic.Relation

/-!
# The loop around the console

A `Loop` is the console and its host, with the two channels on which something comes to them.  The
host takes the next message of one of them (`Loop.Next`), the console reacts, and the host carries
out what it asks for (`Loop.react`).  Between two such rounds anything may arrive, and which channel
comes first is left open (`Loop.Step`).  The program also leaves the loop when the console says that
it quits, but nothing here relies on that.

A request for a session event is a permission, and the host keeps it as a flag.  So two requests in
a row would be worth one, and if one were lost the stream would stand still for good.  Neither
happens (`InStep.step`): each round leaves as many permissions as it found, until the news that the
stream has ended uses the last one up.
-/

namespace AgentConsole

/-- Does the event come from the stream of the backend? -/
def Event.isStreamed : Event → Bool
  | .session _ | .sessionsClosed => true
  | _ => false

/-- What does not come from the stream is no event of a session. -/
theorem Event.session?_of_not_isStreamed {e : Event} (h : e.isStreamed = false) :
    e.session? = none := by
  cases e with
  | session => exact absurd h.symm Bool.false_ne_true
  | _ => rfl

theorem Event.ne_sessionsClosed_of_not_isStreamed {e : Event} (h : e.isStreamed = false) :
    e ≠ .sessionsClosed := by
  rintro rfl
  exact Bool.false_ne_true h.symm

namespace Host

variable {h : Host} {rs : List Request}

/-- There is permission if there was, or if it is asked for. -/
theorem permitted_foldl_execute :
    (rs.foldl execute h).permitted = true ↔ h.permitted = true ∨ .nextSessionEvent ∈ rs := by
  induction rs generalizing h with
  | nil => simp
  | cons r rs ih =>
    rw [List.foldl_cons, ih]
    cases r <;> simp [execute]

/-- The loop ends if it was told to, or is told now. -/
theorem cancelled_foldl_execute :
    (rs.foldl execute h).cancelled = true ↔ h.cancelled = true ∨ .quit ∈ rs := by
  induction rs generalizing h with
  | nil => simp
  | cons r rs ih =>
    rw [List.foldl_cons, ih]
    cases r <;> simp [execute]

end Host

/-- A console with its host, what is on its way to them, and what has come of it so far. -/
structure Loop where
  console : Console
  host : Host := {}
  /-- What the user did, and results of requests. -/
  inbox : List Event := []
  /-- What the backend has sent and the host has not taken. -/
  stream : List SessionEvent := []
  /-- Has the backend closed the stream? -/
  closed : Bool := false
  /-- All that the backend has sent. -/
  sent : List SessionEvent := []
  /-- The events that came to the console, in turn. -/
  handled : List Event := []
  /-- The requests that the host has carried out, in turn. -/
  executed : List Request := []

namespace Loop

/-- The host carries out what the console asks for. -/
def perform (x : Loop) (t : Turn) : Loop :=
  { x with
    console := t.console
    host := t.requests.foldl Host.execute x.host
    executed := x.executed ++ t.requests }

/-- An event comes to the console. -/
def react (x : Loop) (e : Event) (now : Moment) : Loop :=
  { x with handled := x.handled ++ [e] }.perform (x.console.handle e now)

/-- The loop begins: the console starts. -/
def ofConsole (c : Console) : Loop := { console := c : Loop }.perform c.start

/-- A message is the next one of its channel, and is taken from it. -/
inductive Takes (x : Loop) : Message → Loop → Prop where
  | result {e : Event} {rest : List Event} (h : x.inbox = e :: rest) :
    Takes x (.result e) { x with inbox := rest }
  | session {e : SessionEvent} {rest : List SessionEvent} (h : x.stream = e :: rest) :
    Takes x (.session e) { x with stream := rest }
  /-- The end of the stream lies behind all that was sent. -/
  | ended (hstream : x.stream = []) (hclosed : x.closed = true) : Takes x .ended x

/-- The host waits for the next event: it takes any message that it accepts, or gives up if it is
cancelled. -/
inductive Next (x : Loop) : Option Event → Loop → Prop where
  | taken {m : Message} {y : Loop} {host : Host} {e : Event} (htakes : x.Takes m y)
    (haccept : x.host.accept? m = some (host, e)) : Next x (some e) { y with host }
  | cancelled (h : x.host.cancelled = true) : Next x none x

/-- Something arrives, or the loop goes round once. -/
inductive Step (x : Loop) : Loop → Prop where
  | arrive {e : Event} (h : e.isStreamed = false) : Step x { x with inbox := x.inbox ++ [e] }
  | send (e : SessionEvent) (h : x.closed = false) :
    Step x { x with stream := x.stream ++ [e], sent := x.sent ++ [e] }
  | close : Step x { x with closed := true }
  /-- The loop is cancelled from outside. -/
  | cancel : Step x { x with host := { x.host with cancelled := true } }
  | round {e : Event} {y : Loop} (now : Moment) (h : x.Next (some e) y) : Step x (y.react e now)

/-- Some steps later. -/
abbrev Later : Loop → Loop → Prop := Relation.ReflTransGen Step

/-- How often the host was permitted to hand on a session event. -/
def granted (x : Loop) : Nat := x.executed.count .nextSessionEvent

/-- How often it did, the end of the stream included. -/
def used (x : Loop) : Nat := x.handled.countP Event.isStreamed

/-- The session events that came to the console, in turn. -/
def received (x : Loop) : List SessionEvent := x.handled.filterMap Event.session?

variable {x y : Loop} {e : Event} {c : Console}

/-! ### One round -/

/-- What the host takes: something from the inbox, the next event of the stream, or its end. -/
theorem Next.cases (h : x.Next (some e) y) :
    x.host.cancelled = false ∧
      ((∃ rest, x.inbox = e :: rest ∧ y = { x with inbox := rest }) ∨
        x.host.permitted = true ∧
          ((∃ s rest, x.stream = s :: rest ∧ e = .session s ∧
              y = { x with stream := rest, host := { x.host with permitted := false } }) ∨
            x.stream = [] ∧ x.closed = true ∧ e = .sessionsClosed ∧
              y = { x with host := { x.host with permitted := false } })) := by
  cases h with
  | @taken m z host e htakes haccept =>
    -- a loop that ended accepts nothing; otherwise the source of the event decides
    unfold Host.accept? at haccept
    split at haccept
    · exact absurd haccept (by simp)
    · rename_i hcancelled
      refine ⟨by simpa using hcancelled, ?_⟩
      cases htakes with
      | @result e' rest hinbox =>
        simp only [Option.some.injEq, Prod.mk.injEq] at haccept
        obtain ⟨rfl, rfl⟩ := haccept
        exact .inl ⟨rest, hinbox, rfl⟩
      | @session s rest hstream =>
        by_cases hpermitted : x.host.permitted
        · simp only [hpermitted, if_true, Option.some.injEq, Prod.mk.injEq] at haccept
          obtain ⟨rfl, rfl⟩ := haccept
          exact .inr ⟨hpermitted, .inl ⟨s, rest, hstream, rfl, rfl⟩⟩
        · simp [hpermitted] at haccept
      | ended hstream hclosed =>
        by_cases hpermitted : x.host.permitted
        · simp only [hpermitted, if_true, Option.some.injEq, Prod.mk.injEq] at haccept
          obtain ⟨rfl, rfl⟩ := haccept
          exact .inr ⟨hpermitted, .inr ⟨hstream, hclosed, rfl, rfl⟩⟩
        · simp [hpermitted] at haccept

/-- Each event of a session grants one more permission. -/
theorem granted_react (x : Loop) (e : Event) (now : Moment) :
    (x.react e now).granted = x.granted + e.session?.toList.length := by
  show (x.executed ++ _).count _ = _
  rw [List.count_append, Console.count_handle]
  rfl

/-- Each event of the stream uses one. -/
theorem used_react (x : Loop) (e : Event) (now : Moment) :
    (x.react e now).used = x.used + e.isStreamed.toNat := by
  show (x.handled ++ [e]).countP _ = _
  rw [List.countP_append]
  cases h : e.isStreamed <;> simp [h, used]

theorem received_react (x : Loop) (e : Event) (now : Moment) :
    (x.react e now).received = x.received ++ e.session?.toList := by
  show (x.handled ++ [e]).filterMap _ = _
  rw [List.filterMap_append]
  cases h : e.session? <;> simp [h, received]

/-- There is permission again once the event has been handled. -/
theorem permitted_react (x : Loop) (e : Event) (now : Moment) :
    (x.react e now).host.permitted = (x.host.permitted || e.session?.isSome) := by
  have hmem : .nextSessionEvent ∈ (x.console.handle e now).requests ↔ e.session?.isSome = true := by
    rw [← List.count_pos_iff, Console.count_handle]
    cases e.session? <;> simp
  rw [Bool.eq_iff_iff, Bool.or_eq_true]
  exact Host.permitted_foldl_execute.trans (or_congr_right hmem)

theorem mem_handled_react {d : Event} (x : Loop) (e : Event) (now : Moment) :
    d ∈ (x.react e now).handled ↔ d ∈ x.handled ∨ d = e := by
  show d ∈ x.handled ++ [e] ↔ _
  rw [List.mem_append, List.mem_singleton]

/-! ### The permission -/

/-- The host has a permission until the news that the stream has ended has come to the console, and
every other one was used for an event of the stream. -/
structure InStep (x : Loop) : Prop where
  inbox : ∀ e ∈ x.inbox, e.isStreamed = false
  received : x.received ++ x.stream = x.sent
  granted : x.granted = x.used + x.host.permitted.toNat
  permitted : x.host.permitted = true ↔ .sessionsClosed ∉ x.handled
  ended : .sessionsClosed ∈ x.handled → x.stream = [] ∧ x.closed = true
  cancelled : .quit ∈ x.executed → x.host.cancelled = true

namespace InStep

/-- At the start nothing is in flight. -/
theorem ofConsole (c : Console) : (ofConsole c).InStep := by
  have hmem : .nextSessionEvent ∈ c.start.requests :=
    List.count_pos_iff.mp (by rw [Console.count_start]; exact Nat.one_pos)
  have hpermitted : (Loop.ofConsole c).host.permitted = true :=
    Host.permitted_foldl_execute.mpr (.inr hmem)
  refine ⟨fun _ h => absurd h List.not_mem_nil, rfl, ?_, ?_, fun h => absurd h List.not_mem_nil, ?_⟩
  · show ([] ++ c.start.requests).count _ = 0 + _
    rw [hpermitted, List.nil_append, Console.count_start]
    rfl
  · exact iff_of_true hpermitted List.not_mem_nil
  · exact fun h => Host.cancelled_foldl_execute.mpr (.inr h)

/-- A request to quit that is carried out cancels the host. -/
theorem cancelled_react {now : Moment} (h : .quit ∈ y.executed → y.host.cancelled = true)
    (hquit : .quit ∈ (y.react e now).executed) : (y.react e now).host.cancelled = true := by
  refine Host.cancelled_foldl_execute.mpr ?_
  exact (List.mem_append.mp hquit).imp h id

/-- What comes from the inbox leaves the stream and its permission alone. -/
theorem react_of_not_isStreamed (hx : x.InStep) (he : e.isStreamed = false) (now : Moment) :
    (x.react e now).InStep := by
  have hsession := Event.session?_of_not_isStreamed he
  have hpermitted : (x.react e now).host.permitted = x.host.permitted := by
    rw [permitted_react, hsession, Option.isSome_none, Bool.or_false]
  have hended : .sessionsClosed ∈ (x.react e now).handled ↔ .sessionsClosed ∈ x.handled := by
    rw [mem_handled_react]
    exact or_iff_left (Event.ne_sessionsClosed_of_not_isStreamed he).symm
  -- an event from elsewhere neither uses a permission nor ends the stream
  refine ⟨hx.inbox, ?_, ?_, ?_, ?_, cancelled_react hx.cancelled⟩
  · rw [received_react, hsession, Option.toList_none, List.append_nil]
    exact hx.received
  · rw [granted_react, used_react, hpermitted, hsession, he]
    exact hx.granted
  · rw [hpermitted, hended]
    exact hx.permitted
  · rw [hended]
    exact hx.ended

/-- An event of the stream uses the permission up, and brings the next one. -/
theorem react_session {s : SessionEvent} {rest : List SessionEvent} (hx : x.InStep)
    (hpermitted : x.host.permitted = true) (hstream : x.stream = s :: rest) (now : Moment) :
    ({ x with stream := rest, host := { x.host with permitted := false } }.react (.session s)
      now).InStep := by
  have hgranted := hx.granted
  have hopen := hx.permitted.mp hpermitted
  have hreceived := hx.received
  rw [hpermitted] at hgranted
  rw [hstream] at hreceived
  have hended : .sessionsClosed ∉
      ({ x with stream := rest, host := { x.host with permitted := false } }.react (.session s)
        now).handled := by
    rw [mem_handled_react]
    exact not_or.mpr ⟨hopen, Event.noConfusion⟩
  -- the permission that the event used is granted anew, as the stream has not ended
  refine ⟨hx.inbox, ?_, ?_, ?_, fun h => absurd h hended, cancelled_react hx.cancelled⟩
  · rw [received_react]
    show x.received ++ [s] ++ rest = x.sent
    rw [List.append_assoc]
    exact hreceived
  · rw [granted_react, used_react, permitted_react]
    show x.granted + 1 = x.used + 1 + 1
    rw [hgranted]
    rfl
  · refine iff_of_true ?_ hended
    rw [permitted_react]
    rfl

/-- The end of the stream uses the last permission up. -/
theorem react_ended (hx : x.InStep) (hpermitted : x.host.permitted = true) (hstream : x.stream = [])
    (hclosed : x.closed = true) (now : Moment) :
    ({ x with host := { x.host with permitted := false } }.react .sessionsClosed now).InStep := by
  have hgranted := hx.granted
  rw [hpermitted] at hgranted
  refine ⟨hx.inbox, ?_, ?_, ?_, fun _ => ⟨hstream, hclosed⟩, cancelled_react hx.cancelled⟩
  · rw [received_react]
    show x.received ++ [] ++ x.stream = x.sent
    rw [List.append_nil]
    exact hx.received
  · rw [granted_react, used_react, permitted_react]
    exact hgranted
  · rw [permitted_react, mem_handled_react]
    exact iff_of_false Bool.false_ne_true fun h => h (.inr rfl)

/-- One step of the loop, its tasks or the stream keeps the accounts. -/
theorem step (hx : x.InStep) (h : x.Step y) : y.InStep := by
  -- tasks answer, the stream is written to or closed, the user quits, or the loop takes an event
  cases h with
  | @arrive e he =>
    refine { hx with inbox := fun d hd => ?_ }
    rcases List.mem_append.mp hd with hd | hd
    · exact hx.inbox d hd
    · rw [List.mem_singleton.mp hd]
      exact he
  | send e hopen =>
    refine { hx with received := ?_, ended := fun h => ?_ }
    · show x.received ++ (x.stream ++ [e]) = x.sent ++ [e]
      rw [← List.append_assoc, hx.received]
    · -- nothing is sent any more when the stream has ended
      exact absurd (hopen.symm.trans (hx.ended h).2) Bool.false_ne_true
  | close => exact { hx with ended := fun h => ⟨(hx.ended h).1, rfl⟩ }
  | cancel => exact { hx with cancelled := fun _ => rfl }
  | @round e z now hnext =>
    obtain ⟨-, ⟨rest, hinbox, rfl⟩ | ⟨hpermitted, hstreamed⟩⟩ := hnext.cases
    · have hrest : InStep { x with inbox := rest } :=
        { hx with inbox := fun d hd => hx.inbox d (hinbox ▸ List.mem_cons_of_mem e hd) }
      exact hrest.react_of_not_isStreamed (hx.inbox e (hinbox ▸ List.mem_cons_self)) now
    · obtain ⟨s, rest, hstream, rfl, rfl⟩ | ⟨hstream, hclosed, rfl, rfl⟩ := hstreamed
      · exact hx.react_session hpermitted hstream now
      · exact hx.react_ended hpermitted hstream hclosed now

theorem later (hx : x.InStep) (h : x.Later y) : y.InStep := by
  induction h with
  | refl => exact hx
  | tail _ hstep ih => exact ih.step hstep

end InStep

/-! ### What is over for good -/

/-- When the console knows that the stream has ended, it asks for no further event of it. -/
theorem InStep.granted_of_ended (hx : x.InStep) (hended : .sessionsClosed ∈ x.handled)
    (h : x.Later y) : .sessionsClosed ∈ y.handled ∧ y.granted = x.granted := by
  induction h with
  | refl => exact ⟨hended, rfl⟩
  | @tail y z hlater hstep ih =>
    obtain ⟨hended, hgranted⟩ := ih
    cases hstep with
    | arrive | send | close | cancel => exact ⟨hended, hgranted⟩
    | @round e w now hnext =>
      have hy := hx.later hlater
      obtain ⟨-, ⟨rest, hinbox, rfl⟩ | ⟨hpermitted, -⟩⟩ := hnext.cases
      · refine ⟨(mem_handled_react _ e now).mpr (.inl hended), ?_⟩
        rw [granted_react, Event.session?_of_not_isStreamed
          (hy.inbox e (hinbox ▸ List.mem_cons_self))]
        exact hgranted
      · exact absurd hended (hy.permitted.mp hpermitted)

/-- Once the host is cancelled, nothing comes to the console any more. -/
theorem handled_of_cancelled (hcancelled : x.host.cancelled = true) (h : x.Later y) :
    y.host.cancelled = true ∧ y.handled = x.handled ∧ y.console = x.console := by
  induction h with
  | refl => exact ⟨hcancelled, rfl, rfl⟩
  | tail _ hstep ih =>
    cases hstep with
    | arrive | send | close => exact ih
    | cancel => exact ⟨rfl, ih.2⟩
    | round now hnext => exact absurd (hnext.cases.1.symm.trans ih.1) Bool.false_ne_true

/-- A loop that ended takes nothing and stays as it is. -/
theorem next_iff_of_cancelled (hcancelled : x.host.cancelled = true) {answer : Option Event} :
    x.Next answer y ↔ answer = none ∧ y = x := by
  constructor
  · intro h
    cases h with
    | cancelled => exact ⟨rfl, rfl⟩
    | taken htakes haccept =>
      have hnext := Next.taken htakes haccept
      exact absurd (hnext.cases.1.symm.trans hcancelled) Bool.false_ne_true
  · rintro ⟨rfl, rfl⟩
    exact .cancelled hcancelled

/-! ### Every run -/

/-- The session events come one by one, in order and on request, to the end of the stream or of the
loop. -/
structure IsOrderly (x : Loop) : Prop where
  /-- One permission is left over, and the host knows of it. -/
  pending : .sessionsClosed ∉ x.handled → x.host.permitted = true ∧ x.granted = x.used + 1
  /-- What was sent has come to the console or is still on its way. -/
  received : x.received ++ x.stream = x.sent
  /-- An event that waits can be taken. -/
  ready : x.host.cancelled = false → ∀ s rest, x.stream = s :: rest →
    ∃ y, x.Next (some (.session s)) y
  /-- Whatever is taken from the stream has a permission of its own, and uses it up. -/
  taken : ∀ e y, x.Next (some e) y → e.isStreamed = true →
    x.used < x.granted ∧ y.host.permitted = false
  /-- The end of the stream comes when all else has come, and nothing is asked for after it. -/
  ended : .sessionsClosed ∈ x.handled →
    x.received = x.sent ∧ ∀ y, x.Later y → y.granted = x.granted
  /-- After a request to quit the host has nothing to hand on, and nothing comes any more. -/
  quit : .quit ∈ x.executed →
    (∀ answer y, x.Next answer y ↔ answer = none ∧ y = x) ∧
      ∀ y, x.Later y → y.handled = x.handled ∧ y.console = x.console

/-- Accounts that are kept make an orderly loop. -/
theorem InStep.isOrderly (hx : x.InStep) : x.IsOrderly where
  pending hopen := by
    have hpermitted := hx.permitted.mpr hopen
    refine ⟨hpermitted, ?_⟩
    rw [hx.granted, hpermitted]
    rfl
  received := hx.received
  ready hcancelled s rest hstream := by
    have hpermitted : x.host.permitted = true := by
      refine hx.permitted.mpr fun hended => ?_
      exact absurd ((hx.ended hended).1.symm.trans hstream) (List.cons_ne_nil s rest).symm
    have haccept : x.host.accept? (.session s)
        = some ({ x.host with permitted := false }, .session s) := by
      simp [Host.accept?, hcancelled, hpermitted]
    exact ⟨_, .taken (.session hstream) haccept⟩
  -- an event of the stream is not among those that the tasks left
  taken e y hnext hstreamed := by
    obtain ⟨-, ⟨rest, hinbox, -⟩ | ⟨hpermitted, h⟩⟩ := hnext.cases
    · have hother := hx.inbox e (hinbox ▸ List.mem_cons_self)
      exact absurd (hother.symm.trans hstreamed) Bool.false_ne_true
    · refine ⟨?_, ?_⟩
      · rw [hx.granted, hpermitted]
        exact Nat.lt_succ_self _
      · obtain ⟨_, _, -, -, rfl⟩ | ⟨-, -, -, rfl⟩ := h
        · rfl
        · rfl
  ended hended := by
    refine ⟨?_, fun y hlater => (hx.granted_of_ended hended hlater).2⟩
    rw [← hx.received, (hx.ended hended).1, List.append_nil]
  quit hquit := by
    have hcancelled := hx.cancelled hquit
    exact ⟨fun _ _ => next_iff_of_cancelled hcancelled,
      fun _ hlater => (handled_of_cancelled hcancelled hlater).2⟩

/-- **Session events come one by one.**  Whatever arrives between the rounds of the loop, and on
whichever channel the host looks first. -/
theorem isOrderly_of_later (h : (ofConsole c).Later x) : x.IsOrderly :=
  ((InStep.ofConsole c).later h).isOrderly

/-- The backend sends an event, and the loop goes round once. -/
theorem isOrderly_of_one_round :
    let c := Console.ofTuning {} .fallback (fun name => (.named name, [])) Transcript.markup
    ∃ x, (ofConsole c).Later x ∧ x.received = [.exited ⟨"s1"⟩ none] ∧ x.IsOrderly := by
  intro c
  let e : SessionEvent := .exited ⟨"s1"⟩ none
  have hsent : (ofConsole c).Later { ofConsole c with stream := [e], sent := [e] } :=
    .single (.send e rfl)
  have hround := hsent.tail (.round ⟨0, 0⟩ (.taken (.session rfl) rfl))
  exact ⟨_, hround, rfl, isOrderly_of_later hround⟩

end Loop

end AgentConsole
