import SmartAp.Dns.Packet
import SmartAp.Limiter.FixedWindow
import Mathlib.Algebra.Order.Group.Int
import Mathlib.Algebra.Group.Nat.Defs

/-!
# The rate limit over a run

`serve` handles one datagram after the other. Beside the replies it keeps the number of resets of
the window so far and the value of `dns_pkt_count`, which the statements are about. A datagram that
is too short or is itself a reply never reaches the limiter; the others are the requests of a
limiter with fixed windows (`filter_counted_serve`), of which at most the admitted ones get a reply.

## What is counted

The task counts a datagram before it looks at the OPCODE and at QDCOUNT, so that what is answered
with an error, or with nothing at all, uses up the window as well (`Datagram.Counted`). The bounds
are therefore bounds on replies of every kind.

## Windows

The window begins again with the first counted datagram that comes more than a second after its
start. The limiter of `SmartAp.Limiter.FixedWindow` is one with such windows of any length, over any
times that do not go back. `rateLimit_bounds_replies` is what its bounds come to here: between two
resets no more replies than the limit, and in an interval of a second no more than twice as many, as
an interval meets two windows at most. That `dns_pkt_count`, an `int`, does not overflow is a
condition on the number of datagrams in a window (`pktCount_lt`).
-/

/-- A datagram as the loop meets it: when, with which address of the access point, and the buffer
and length that `recvfrom` left. -/
structure Datagram where
  now : ℤ
  ip : UInt32
  rx : List UInt8
  len : ℕ

/-- It reaches the limiter. -/
def Datagram.Counted (d : Datagram) : Prop := 12 ≤ d.len ∧ rxAt d.rx 2 &&& 0x80 = 0

instance (d : Datagram) : Decidable d.Counted :=
  inferInstanceAs (Decidable (12 ≤ d.len ∧ rxAt d.rx 2 &&& 0x80 = 0))

/-- A datagram, how many times the window has been reset up to it, `dns_pkt_count` after it, and
what was sent. -/
structure DnsHandled where
  datagram : Datagram
  window : ℕ
  pktCount : ℕ
  replies : List (List UInt8)

/-- Handle the datagrams in turn. -/
def serve (cfg : DnsConfig) : DnsLimiter → ℕ → List Datagram → List DnsHandled
  | _, _, [] => []
  | limiter, window, d :: ds =>
    let window := if d.Counted ∧ d.now - limiter.windowStart > 1000000 then window + 1 else window
    let (limiter, replies) := handlePacket cfg d.ip limiter d.now d.rx d.len
    ⟨d, window, limiter.pktCount, replies⟩ :: serve cfg limiter window ds

/-- What is sent for the datagrams of a kind. -/
def sentFor (kind : DnsHandled → Bool) (run : List DnsHandled) : List (List UInt8) :=
  (run.filter kind).flatMap DnsHandled.replies

/-! ### The limiter of the task -/

/-- The windows of the task. -/
def dnsWindow (cfg : DnsConfig) : FixedWindow Datagram ℤ := ⟨cfg.rateLimit, 1000000, Datagram.now⟩

/-- Its state as a window. -/
def DnsLimiter.window (limiter : DnsLimiter) : FixedWindow.Window ℤ :=
  ⟨limiter.pktCount, limiter.windowStart⟩

/-- What becomes of a request. -/
def DnsHandled.ofTick (cfg : DnsConfig) (x : FixedWindow.Tick Datagram) : DnsHandled :=
  ⟨x.request, x.window, x.rank + 1, if (dnsWindow cfg).Admits x then
    answerPacket cfg x.request.ip x.request.rx x.request.len else []⟩

section

variable {cfg : DnsConfig} {limiter : DnsLimiter} {n : ℕ} {d : Datagram} {ds : List Datagram}

/-- A datagram that does not reach the limiter changes nothing. -/
theorem serve_of_not_counted (h : ¬ d.Counted) :
    serve cfg limiter n (d :: ds) = ⟨d, n, limiter.pktCount, []⟩ :: serve cfg limiter n ds := by
  have hdropped : handlePacket cfg d.ip limiter d.now d.rx d.len = (limiter, []) := by
    rw [handlePacket]
    split
    · rfl
    · rename_i hlen
      rw [if_pos fun hquery ↦ h ⟨Nat.le_of_not_lt hlen, hquery⟩]
  rw [serve, hdropped, if_neg fun hcounted ↦ h hcounted.1]

/-- A datagram that reaches the limiter and gets nothing but what the limiter lets through. -/
theorem handlePacket_of_counted (h : d.Counted) :
    handlePacket cfg d.ip limiter d.now d.rx d.len =
      ((limiter.count cfg.rateLimit d.now).1,
        if (limiter.count cfg.rateLimit d.now).2 then answerPacket cfg d.ip d.rx d.len
        else []) := by
  rw [handlePacket, if_neg (Nat.not_lt.2 h.1), if_neg (not_not.2 h.2)]

theorem passes_iff (count limit : ℕ) : (!decide (count + 1 > limit)) = true ↔ count < limit := by
  rw [Bool.not_eq_true', decide_eq_false_iff_not, Nat.not_lt, Nat.succ_le_iff]

theorem serve_of_begins (h : d.Counted) (hbegins : (dnsWindow cfg).Begins limiter.window d) :
    serve cfg limiter n (d :: ds) =
      .ofTick cfg ⟨d, n + 1, 0⟩ :: serve cfg ⟨1, d.now⟩ (n + 1) ds := by
  have hreset : d.now - limiter.windowStart > 1000000 := hbegins
  rw [serve, if_pos ⟨h, hreset⟩, handlePacket_of_counted h]
  simp only [DnsLimiter.count, if_pos hreset, passes_iff]
  rfl

theorem serve_of_not_begins (h : d.Counted)
    (hbegins : ¬ (dnsWindow cfg).Begins limiter.window d) :
    serve cfg limiter n (d :: ds) =
      .ofTick cfg ⟨d, n, limiter.pktCount⟩ ::
        serve cfg ⟨limiter.pktCount + 1, limiter.windowStart⟩ n ds := by
  have hreset : ¬ d.now - limiter.windowStart > 1000000 := hbegins
  rw [serve, if_neg fun h ↦ hreset h.2, handlePacket_of_counted h]
  simp only [DnsLimiter.count, if_neg hreset, passes_iff]
  rfl

theorem filter_ofTick {x : FixedWindow.Tick Datagram} (h : x.request.Counted)
    (run : List DnsHandled) :
    (DnsHandled.ofTick cfg x :: run).filter (·.datagram.Counted) =
      .ofTick cfg x :: run.filter (·.datagram.Counted) :=
  List.filter_cons_of_pos (decide_eq_true h)

/-- The requests of the limiter are the datagrams that reach it. -/
theorem filter_counted_serve (cfg : DnsConfig) (limiter : DnsLimiter) (n : ℕ)
    (ds : List Datagram) :
    (serve cfg limiter n ds).filter (·.datagram.Counted) =
      ((dnsWindow cfg).ticks limiter.window n (ds.filter (·.Counted))).map (.ofTick cfg) := by
  induction ds generalizing limiter n with
  | nil => rfl
  | cons d ds ih =>
    by_cases hcounted : d.Counted
    · have hkept : decide d.Counted = true := decide_eq_true hcounted
      by_cases hbegins : (dnsWindow cfg).Begins limiter.window d
      · rw [serve_of_begins hcounted hbegins, filter_ofTick hcounted, ih, List.filter_cons,
          if_pos hkept, FixedWindow.ticks_of_begins hbegins]
        rfl
      · rw [serve_of_not_begins hcounted hbegins, filter_ofTick hcounted, ih, List.filter_cons,
          if_pos hkept, FixedWindow.ticks_of_not_begins hbegins]
        rfl
    · have hdropped : ¬ decide d.Counted = true := fun h ↦ hcounted (of_decide_eq_true h)
      rw [serve_of_not_counted hcounted, List.filter_cons, List.filter_cons, if_neg hdropped,
        if_neg hdropped, ih]

/-- The others get no reply. -/
theorem replies_of_not_counted {x : DnsHandled} (h : x ∈ serve cfg limiter n ds)
    (hdropped : ¬ x.datagram.Counted) : x.replies = [] := by
  induction ds generalizing limiter n with
  | nil => cases h
  | cons d ds ih =>
    by_cases hcounted : d.Counted
    · by_cases hbegins : (dnsWindow cfg).Begins limiter.window d
      · rw [serve_of_begins hcounted hbegins] at h
        rcases List.mem_cons.1 h with rfl | hlater
        · exact absurd hcounted hdropped
        · exact ih hlater
      · rw [serve_of_not_begins hcounted hbegins] at h
        rcases List.mem_cons.1 h with rfl | hlater
        · exact absurd hcounted hdropped
        · exact ih hlater
    · rw [serve_of_not_counted hcounted] at h
      rcases List.mem_cons.1 h with rfl | hlater
      · rfl
      · exact ih hlater

/-! ### Replies -/

theorem length_answerQuestion_le (cfg : DnsConfig) (ip : UInt32) (rx : List UInt8) (len i : ℕ) :
    (answerQuestion cfg ip rx len i).length ≤ 1 := by
  simp only [answerQuestion]
  repeat' split
  all_goals exact Nat.le_of_ble_eq_true rfl

/-- A datagram gets at most one reply. -/
theorem length_answerPacket_le (cfg : DnsConfig) (ip : UInt32) (rx : List UInt8) (len : ℕ) :
    (answerPacket cfg ip rx len).length ≤ 1 := by
  rw [answerPacket]
  split
  · exact le_rfl
  · split
    · exact Nat.zero_le 1
    · split
      · exact le_rfl
      · exact length_answerQuestion_le cfg ip rx len _

theorem length_sentFor_cons (kind : DnsHandled → Bool) (x : DnsHandled) (run : List DnsHandled) :
    (sentFor kind (x :: run)).length =
      (if kind x then x.replies.length else 0) + (sentFor kind run).length := by
  rw [sentFor, List.filter_cons]
  split
  · rw [List.flatMap_cons, List.length_append]
    rfl
  · rw [Nat.zero_add]
    rfl

theorem length_sentFor_ofTick_le {kind : DnsHandled → Bool} {run : List DnsHandled}
    {ticks : List (FixedWindow.Tick Datagram)} (x : FixedWindow.Tick Datagram)
    (h : (sentFor kind run).length ≤
      ticks.countP fun x ↦ kind (.ofTick cfg x) ∧ (dnsWindow cfg).Admits x) :
    (sentFor kind (.ofTick cfg x :: run)).length ≤
      (x :: ticks).countP fun x ↦ kind (.ofTick cfg x) ∧ (dnsWindow cfg).Admits x := by
  have hone : (if kind (.ofTick cfg x) then (DnsHandled.ofTick cfg x).replies.length else 0) ≤
      if kind (.ofTick cfg x) ∧ (dnsWindow cfg).Admits x then 1 else 0 := by
    by_cases hkind : kind (.ofTick cfg x)
    · by_cases hadmits : (dnsWindow cfg).Admits x
      · rw [if_pos hkind, if_pos ⟨hkind, hadmits⟩, DnsHandled.ofTick, if_pos hadmits]
        exact length_answerPacket_le cfg _ _ _
      · rw [if_pos hkind, DnsHandled.ofTick, if_neg hadmits]
        exact Nat.zero_le _
    · rw [if_neg hkind]
      exact Nat.zero_le _
  rw [length_sentFor_cons, List.countP_cons, Nat.add_comm]
  simp only [decide_eq_true_eq]
  exact Nat.add_le_add h hone

/-- **Only admitted requests get a reply**, and each gets one at most. -/
theorem length_sentFor_le (kind : DnsHandled → Bool) (cfg : DnsConfig) (limiter : DnsLimiter)
    (n : ℕ) (ds : List Datagram) :
    (sentFor kind (serve cfg limiter n ds)).length ≤
      ((dnsWindow cfg).ticks limiter.window n (ds.filter (·.Counted))).countP
        (fun x ↦ kind (.ofTick cfg x) ∧ (dnsWindow cfg).Admits x) := by
  induction ds generalizing limiter n with
  | nil => exact Nat.zero_le _
  | cons d ds ih =>
    by_cases hcounted : d.Counted
    · have hkept : decide d.Counted = true := decide_eq_true hcounted
      by_cases hbegins : (dnsWindow cfg).Begins limiter.window d
      · rw [serve_of_begins hcounted hbegins, List.filter_cons, if_pos hkept,
          FixedWindow.ticks_of_begins hbegins]
        exact length_sentFor_ofTick_le _ (ih ⟨1, d.now⟩ (n + 1))
      · rw [serve_of_not_begins hcounted hbegins, List.filter_cons, if_pos hkept,
          FixedWindow.ticks_of_not_begins hbegins]
        exact length_sentFor_ofTick_le _ (ih ⟨limiter.pktCount + 1, limiter.windowStart⟩ n)
    · have hdropped : ¬ decide d.Counted = true := fun h ↦ hcounted (of_decide_eq_true h)
      rw [serve_of_not_counted hcounted, List.filter_cons, if_neg hdropped, length_sentFor_cons,
        List.length_nil, ite_self, Nat.zero_add]
      exact ih limiter n

/-- How many datagrams have reached the limiter in a window. -/
def countedIn (window : ℕ) (run : List DnsHandled) : ℕ :=
  run.countP fun x ↦ x.datagram.Counted ∧ x.window = window

/-- A datagram that reaches the limiter, from the start: it is a request of the limiter, and its
rank is the number of those of its window before it. -/
theorem ofTick_of_counted {before after : List DnsHandled} {x : DnsHandled}
    (hrun : serve cfg ⟨0, 0⟩ 0 ds = before ++ x :: after) (hx : x.datagram.Counted) :
    ∃ tick : FixedWindow.Tick Datagram, x = .ofTick cfg tick ∧
      tick.rank = countedIn x.window before := by
  have hfilter := filter_counted_serve cfg ⟨0, 0⟩ 0 ds
  rw [hrun, List.filter_append, List.filter_cons, if_pos (decide_eq_true hx), eq_comm,
    List.map_eq_append_iff] at hfilter
  obtain ⟨early, late, hticks, hbefore, hlate⟩ := hfilter
  obtain ⟨tick, late, rfl, rfl, -⟩ := List.map_eq_cons_iff.1 hlate
  refine ⟨tick, rfl, ?_⟩
  have hrank := FixedWindow.rank_eq hticks
  rw [show (if tick.window = 0 then (DnsLimiter.window ⟨0, 0⟩).count else 0) = 0 from ite_self 0,
    Nat.zero_add] at hrank
  rw [hrank, countedIn]
  calc early.countP (fun y ↦ decide (y.window = tick.window))
      = (early.map (DnsHandled.ofTick cfg)).countP (fun y ↦ decide (y.window = tick.window)) := by
        rw [List.countP_map]
        rfl
    _ = before.countP fun y ↦ y.datagram.Counted ∧ y.window = tick.window := by
        rw [hbefore, List.countP_filter]
        refine List.countP_congr fun y _ ↦ ?_
        simp [and_comm]

/-- With fewer than 2^31 datagrams in a window the counter stays an `int`. -/
theorem pktCount_lt {x : DnsHandled}
    (hfew : ∀ window, countedIn window (serve cfg ⟨0, 0⟩ 0 ds) < 2 ^ 31)
    (hmem : x ∈ serve cfg ⟨0, 0⟩ 0 ds) (hx : x.datagram.Counted) : x.pktCount < 2 ^ 31 := by
  obtain ⟨before, after, hrun⟩ := List.append_of_mem hmem
  obtain ⟨tick, rfl, hrank⟩ := ofTick_of_counted hrun hx
  have hlt := hfew tick.window
  have hself : countedIn tick.window (.ofTick cfg tick :: after) =
      countedIn tick.window after + 1 := List.countP_cons_of_pos (decide_eq_true ⟨hx, rfl⟩)
  have hsplit : countedIn tick.window (before ++ .ofTick cfg tick :: after) =
      countedIn tick.window before + countedIn tick.window (.ofTick cfg tick :: after) :=
    List.countP_append
  have hrank : tick.rank = countedIn tick.window before := hrank
  rw [hrun, hsplit, hself] at hlt
  show tick.rank + 1 < 2 ^ 31
  omega

/-- **The rate limit bounds every reply.** No more replies than the limit between two resets; no
more than twice the limit in an interval of a second; and a datagram among the first of its window
gets the reply it would get without a limiter. -/
theorem rateLimit_bounds_replies (cfg : DnsConfig) (ds : List Datagram)
    (hnow : (ds.filter (·.Counted)).Pairwise fun d e ↦ d.now ≤ e.now) :
    (∀ window, (sentFor (·.window = window) (serve cfg ⟨0, 0⟩ 0 ds)).length ≤ cfg.rateLimit) ∧
      (∀ t u, u ≤ t + 1000000 →
        (sentFor (fun x ↦ t ≤ x.datagram.now ∧ x.datagram.now ≤ u)
          (serve cfg ⟨0, 0⟩ 0 ds)).length ≤ 2 * cfg.rateLimit) ∧
      ∀ before x after, serve cfg ⟨0, 0⟩ 0 ds = before ++ x :: after → x.datagram.Counted →
        countedIn x.window before < cfg.rateLimit →
        x.replies = answerPacket cfg x.datagram.ip x.datagram.rx x.datagram.len := by
  refine ⟨fun window ↦ ?_, fun t u hperiod ↦ ?_, fun before x after hrun hx hfirst ↦ ?_⟩
  · refine (length_sentFor_le _ cfg ⟨0, 0⟩ 0 ds).trans ?_
    simp only [decide_eq_true_eq]
    exact (dnsWindow cfg).countP_admitted_le _ 0 window _
  · refine (length_sentFor_le _ cfg ⟨0, 0⟩ 0 ds).trans ?_
    simp only [decide_eq_true_eq]
    exact FixedWindow.countP_admitted_interval_le (F := dnsWindow cfg) hnow hperiod
  · obtain ⟨tick, rfl, hrank⟩ := ofTick_of_counted hrun hx
    have hadmits : (dnsWindow cfg).Admits tick := hrank.trans_lt hfirst
    rw [DnsHandled.ofTick, if_pos hadmits]

end

/-- Two queries for another class with a short datagram between them, a third query, and a fourth a
second later. -/
def classQueries : List Datagram :=
  let rx : List UInt8 := [0x12, 0x34, 0x01, 0, 0, 1, 0, 0, 0, 0, 0, 0, 0, 0, 1, 0, 3]
  [⟨5, 0x0104A8C0, rx, 17⟩, ⟨6, 0x0104A8C0, rx, 3⟩, ⟨7, 0x0104A8C0, rx, 17⟩,
    ⟨7, 0x0104A8C0, rx, 17⟩, ⟨1000001, 0x0104A8C0, rx, 17⟩]

/-- With a limit of two the third query is dropped and the fourth is answered. -/
theorem rateLimit_bounds_replies_classQueries :
    ((serve ⟨512, by decide, 2⟩ ⟨0, 0⟩ 0 classQueries).map fun x ↦ x.replies.length) =
        [1, 0, 1, 0, 1] ∧
      (sentFor (·.window = 0) (serve ⟨512, by decide, 2⟩ ⟨0, 0⟩ 0 classQueries)).length ≤ 2 :=
  ⟨by decide +kernel,
    (rateLimit_bounds_replies ⟨512, by decide, 2⟩ classQueries (by decide +kernel)).1 0⟩
